import EntityDiagram.Proofs.Document.Flattening

/-!
# Paths in long form

A list of paths can be written down as the fields of a mapping: each path as a key, as it is, and
its descriptor in long form.  The main statement is `longForms_read_back`: reading such fields gives
the same paths, so that every spelling of accepted fields can be replaced by the long form.
-/

namespace EntityDiagram

open Value (lookup? lookup?_cons)

/-! ### Writing -/

/-- An entry for a key that has a value, and none for one without. -/
def optionalEntry (key : Text) (value : Option Value) : Mapping :=
  (value.map fun present => (.text key, present)).toList

/-- The entries of a long form. -/
def longFormEntries (kind : Value) (options : Options) (schema element : Option Value) : Mapping :=
  [(.text "type", kind), (.text "required", .bool options.required),
    (.text "unique", .bool options.unique)] ++
  optionalEntry "ref" (if options.ref.isNull then none else some options.ref) ++
  optionalEntry "schema" schema ++ optionalEntry "of" element

mutual

/-- A descriptor in long form; a missing one is not written. -/
def Descriptor.longForm? : Descriptor → Option Value
  | .missing => none
  | .typed kind options schema element =>
      some (.map (longFormEntries kind options (schemaForm? schema) element.longForm?))

def schemaForm? : Option (List (Text × Descriptor)) → Option Value
  | none => none
  | some paths => some (.map (Mapping.ofPairs (pathForms paths)))

/-- The fields of paths, each under its path; a path without a descriptor is null. -/
def pathForms : List (Text × Descriptor) → List (Scalar × Value)
  | [] => []
  | (path, descriptor) :: rest => (.text path, descriptor.longForm?.getD .null) :: pathForms rest

end

/-- Paths as a mapping of fields in long form. -/
def fieldsOfPaths (paths : Paths) : Value :=
  .map (Mapping.ofPairs (pathForms paths))

/-! ### Paths that can be written -/

/-- A descriptor that is there, of a kind with a name, with an element only if it is an array; and
so are all descriptors in it. -/
inductive Descriptor.Regular : Descriptor → Prop
  | mk {kind : Value} {options : Options} {schema : Option Paths} {element : Descriptor}
      (named : ∃ name ≠ [], kind = .text name)
      (nested : ∀ paths, schema = some paths → ∀ entry ∈ paths, Regular entry.2)
      (isArray : element ≠ .missing → kind = .text arrayKind)
      (inner : element ≠ .missing → Regular element) :
      Regular (.typed kind options schema element)

/-- A descriptor in whose schemas no path occurs twice. -/
inductive Descriptor.Distinct : Descriptor → Prop
  | missing : Distinct .missing
  | typed {kind : Value} {options : Options} {schema : Option Paths} {element : Descriptor}
      (different : ∀ paths, schema = some paths → (paths.map Prod.fst).Nodup)
      (nested : ∀ paths, schema = some paths → ∀ entry ∈ paths, Distinct entry.2)
      (inner : Distinct element) :
      Distinct (.typed kind options schema element)

/-- Paths that are pairwise different, as are those of every schema in their descriptors. -/
structure DistinctPaths (paths : Paths) : Prop where
  different : (paths.map Prod.fst).Nodup
  nested : ∀ entry ∈ paths, entry.2.Distinct

/-! ### Mappings with texts as keys -/

theorem Scalar.sameKey_text_iff {first second : Text} :
    (Scalar.text first).sameKey (.text second) = true ↔ first = second := by
  simp [Scalar.sameKey, Scalar.identity]

/-- The entries of pairs whose keys are texts. -/
def textEntries (pairs : List (Text × Value)) : Mapping :=
  pairs.map fun pair => (.text pair.1, pair.2)

/-- Different texts are the keys of a mapping in their order. -/
theorem ofPairs_textEntries {pairs : List (Text × Value)}
    (different : (pairs.map Prod.fst).Nodup) :
    Mapping.ofPairs (textEntries pairs) = textEntries pairs := by
  have differ : Mapping.KeysDiffer ([] ++ textEntries pairs) := by
    rw [List.nil_append, Mapping.KeysDiffer, textEntries, List.pairwise_map]
    refine (List.pairwise_map.mp different).imp fun different => ?_
    rw [Bool.eq_false_iff]
    exact fun same => different (Scalar.sameKey_text_iff.mp same)
  exact Mapping.insertAll_eq_append differ

theorem lookup?_append (front rest : Mapping) (key : Text) :
    lookup? (front ++ rest) key = (lookup? front key).or (lookup? rest key) := by
  rw [lookup?, List.find?_append, Option.map_or]
  rfl

theorem lookup?_optionalEntry (name : Text) (value : Option Value) (key : Text) :
    lookup? (optionalEntry name value) key = if name = key then value else none := by
  cases value with
  | none => simp [optionalEntry]
  | some present => simp [optionalEntry, lookup?_cons]

/-! ### Reading a long form -/

theorem Value.eq_null_of_isNull {value : Value} (isNull : value.isNull = true) : value = .null := by
  unfold Value.isNull at isNull
  split at isNull
  · rfl
  · cases isNull

section

variable (kind : Value) (options : Options) (schema element : Option Value)

/-- The value of each key of a long form. -/
theorem lookup?_longFormEntries :
    lookup? (longFormEntries kind options schema element) "type" = some kind ∧
    lookup? (longFormEntries kind options schema element) "required" =
      some (.bool options.required) ∧
    lookup? (longFormEntries kind options schema element) "unique" =
      some (.bool options.unique) ∧
    lookup? (longFormEntries kind options schema element) "ref" =
      (if options.ref.isNull then none else some options.ref) ∧
    lookup? (longFormEntries kind options schema element) "schema" = schema ∧
    lookup? (longFormEntries kind options schema element) "of" = element := by
  simp +decide [longFormEntries, lookup?_append, lookup?_optionalEntry, lookup?_cons]

variable {kind options schema element}

theorem isDescriptor_longFormEntries :
    isDescriptor (.map (longFormEntries kind options schema element)) = true :=
  isDescriptor_map_iff.mpr (.inl ⟨kind, (lookup?_longFormEntries kind options schema element).1⟩)

theorem longFormKind_longFormEntries (truthy : kind.isTruthy = true) (defaultKind : Value) :
    longFormKind defaultKind (longFormEntries kind options schema element) = kind := by
  rw [longFormKind, (lookup?_longFormEntries kind options schema element).1]
  exact if_pos truthy

theorem longFormOptions_longFormEntries :
    longFormOptions (longFormEntries kind options schema element) = options := by
  obtain ⟨-, required, unique, ref, -, -⟩ :=
    lookup?_longFormEntries kind options schema element
  have refRead : ((if options.ref.isNull then none else some options.ref).getD .null) =
      options.ref := by
    split
    · next isNull => exact (Value.eq_null_of_isNull isNull).symm
    · rfl
  rw [longFormOptions, required, unique, ref, refRead]
  rfl

theorem readDescriptor_longFormEntries (truthy : kind.isTruthy = true) (defaultKind : Value) :
    readDescriptor defaultKind (.map (longFormEntries kind options schema element)) =
      readSchema (longFormEntries kind options schema element) >>= fun paths =>
        (if kind.isText arrayKind then readElement (longFormEntries kind options schema element)
          else .ok .missing) >>= fun inner => .ok (.typed kind options paths inner) := by
  rw [readDescriptor_map, longFormKind_longFormEntries truthy, longFormOptions_longFormEntries]

end

/-- A descriptor with a long form that is read as the descriptor, whatever the default kind is. -/
def Descriptor.ReadsBack (descriptor : Descriptor) : Prop :=
  ∃ entries, descriptor.longForm? = some (.map entries) ∧ isDescriptor (.map entries) = true ∧
    ∀ defaultKind, readDescriptor defaultKind (.map entries) = .ok descriptor

theorem pathForms_eq (paths : Paths) :
    pathForms paths =
      textEntries (paths.map fun entry => (entry.1, entry.2.longForm?.getD .null)) := by
  induction paths with
  | nil => rw [pathForms]; rfl
  | cons entry paths ih => rw [pathForms, ih]; rfl

theorem flattenEntries_pathForms {paths : Paths} (readBack : ∀ entry ∈ paths, entry.2.ReadsBack) :
    flattenEntries "" (pathForms paths) = .ok paths := by
  induction paths with
  | nil => rw [pathForms, flattenEntries]
  | cons entry paths ih =>
      obtain ⟨⟨entries, form, isDescriptor, read⟩, restReadBack⟩ := List.forall_mem_cons.mp readBack
      have written : (Scalar.text entry.1).written = .ok entry.1 := rfl
      have here : fieldPaths entry.1 (.map entries) = .ok [entry] := by
        rw [fieldPaths, if_pos isDescriptor, read]
        rfl
      have rest := ih restReadBack
      rw [pathForms, form, flattenEntries_cons, written, bind_ok, rest]
      exact congrArg (· >>= fun here => .ok (here ++ paths)) here

/-- Paths that are different are read back from the fields that they are written as. -/
theorem flattenFields_fieldsOfPaths {paths : Paths} (different : (paths.map Prod.fst).Nodup)
    (readBack : ∀ entry ∈ paths, entry.2.ReadsBack) :
    flattenFields "" (fieldsOfPaths paths) = .ok paths := by
  have kept : Mapping.ofPairs (pathForms paths) = pathForms paths := by
    rw [pathForms_eq]
    apply ofPairs_textEntries
    rwa [List.map_map]
  rw [fieldsOfPaths, kept, flattenFields]
  exact flattenEntries_pathForms readBack

section

variable {kind : Value} {options : Options}

theorem readSchema_longFormEntries {element : Option Value} {schema : Option Paths}
    (readBack : ∀ paths, schema = some paths →
      flattenFields "" (fieldsOfPaths paths) = .ok paths) :
    readSchema (longFormEntries kind options (schemaForm? schema) element) = .ok schema := by
  obtain ⟨-, -, -, -, found, -⟩ := lookup?_longFormEntries kind options (schemaForm? schema) element
  rw [readSchema_eq, found]
  cases schema with
  | none =>
      rw [schemaForm?]
  | some paths =>
      have read := readBack paths rfl
      have form : schemaForm? (some paths) = some (fieldsOfPaths paths) := by
        rw [schemaForm?, fieldsOfPaths]
      rw [form]
      dsimp only
      split
      · rw [read]
        rfl
      · next empty =>
          -- No fields are not looked at, but give the empty schema that was written.
          have noFields : Mapping.ofPairs (pathForms paths) = [] := by
            simpa [fieldsOfPaths, Value.isTruthy] using empty
          rw [fieldsOfPaths, noFields, flattenFields, flattenEntries] at read
          rw [Except.ok.inj read]

theorem readElement_longFormEntries {schema : Option Value} {element : Descriptor}
    (readsBack : element ≠ .missing → element.ReadsBack) :
    readElement (longFormEntries kind options schema element.longForm?) = .ok element := by
  obtain ⟨-, -, -, -, -, found⟩ := lookup?_longFormEntries kind options schema element.longForm?
  rw [readElement_eq, found]
  cases element with
  | missing => rw [Descriptor.longForm?]
  | typed elementKind elementOptions elementSchema innermost =>
      obtain ⟨entries, form, -, read⟩ := readsBack (by simp)
      rw [form]
      exact read (.text embeddedKind)

end

/-- The induction is on the descriptor: its schema and its element are read back before it. -/
theorem Descriptor.Regular.readsBack {descriptor : Descriptor} (regular : descriptor.Regular)
    (distinct : descriptor.Distinct) : descriptor.ReadsBack := by
  induction regular with
  | @mk kind options schema element named nested isArray inner nestedReadBack innerReadsBack =>
      cases distinct with
      | typed different nestedDistinct innerDistinct =>
          have truthy : kind.isTruthy = true := by
            obtain ⟨name, nonempty, rfl⟩ := named
            simpa [Value.isTruthy, Scalar.isTruthy] using nonempty
          have schemaRead : readSchema (longFormEntries kind options (schemaForm? schema)
              element.longForm?) = .ok schema :=
            readSchema_longFormEntries fun paths declared =>
              flattenFields_fieldsOfPaths (different paths declared) fun entry member =>
                nestedReadBack paths declared entry member
                  (nestedDistinct paths declared entry member)
          have elementRead : (if kind.isText arrayKind then
              readElement (longFormEntries kind options (schemaForm? schema) element.longForm?)
                else .ok .missing) = .ok element := by
            split
            · exact readElement_longFormEntries fun present =>
                innerReadsBack present innerDistinct
            · next notArray =>
                cases element with
                | missing => rfl
                | typed => exact (notArray (Value.isText_iff.mpr (isArray (by simp)))).elim
          refine ⟨_, by rw [longForm?], isDescriptor_longFormEntries, fun defaultKind => ?_⟩
          rw [readDescriptor_longFormEntries truthy, schemaRead, bind_ok, elementRead, bind_ok]

theorem Descriptor.WellFormed.regular {descriptor : Descriptor}
    (wellFormed : descriptor.WellFormed) : descriptor.Regular := by
  induction wellFormed with
  | typed known ref nested isArray inner nestedRegular innerRegular =>
      have kindsNamed : ∀ name ∈ allKinds, name ≠ [] := by decide
      obtain ⟨name, member, isName⟩ := known
      exact .mk ⟨name, kindsNamed name member, isName⟩ nestedRegular isArray innerRegular

/-- Paths of regular descriptors, pairwise different on every level, are read back from the fields
that they are written as.  So the fields of an accepted document, which are flattened exactly if
their keys can be written, give the same paths in whatever form they are spelled. -/
theorem longForms_read_back :
    (∀ paths : Paths, (∀ entry ∈ paths, entry.2.Regular) → DistinctPaths paths →
      flattenFields "" (fieldsOfPaths paths) = .ok paths) ∧
    ∀ fields, AcceptedFields fields →
      ((∃ paths, flattenFields "" (.map fields) = .ok paths) ↔
        ∀ entry ∈ fields, entry.1.isWritable = true) ∧
      ∀ paths, flattenFields "" (.map fields) = .ok paths → DistinctPaths paths →
        flattenFields "" (fieldsOfPaths paths) = flattenFields "" (.map fields) := by
  have readBack (paths : Paths) (regular : ∀ entry ∈ paths, entry.2.Regular)
      (distinct : DistinctPaths paths) : flattenFields "" (fieldsOfPaths paths) = .ok paths :=
    flattenFields_fieldsOfPaths distinct.different fun entry member =>
      (regular entry member).readsBack (distinct.nested entry member)
  refine ⟨readBack, fun fields accepted => ⟨⟨?_, accepted.yields.answers⟩, ?_⟩⟩
  · rintro ⟨paths, flattened⟩
    rw [flattenFields] at flattened
    exact keys_writable_of_flattened flattened
  · intro paths flattened distinct
    rw [flattened]
    exact readBack paths (fun entry member =>
      (accepted.yields.good paths flattened entry member).regular) distinct

theorem Descriptor.Distinct.ofSchema {kind : Value} {options : Options} {paths : Paths}
    {element : Descriptor} (distinct : DistinctPaths paths) (inner : element.Distinct) :
    (Descriptor.typed kind options (some paths) element).Distinct := by
  refine .typed ?_ ?_ inner
  · rintro _ ⟨⟩
    exact distinct.different
  · rintro _ ⟨⟩
    exact distinct.nested

theorem Descriptor.Distinct.ofNoSchema {kind : Value} {options : Options} {element : Descriptor}
    (inner : element.Distinct) : (Descriptor.typed kind options none element).Distinct := by
  refine .typed ?_ ?_ inner
  · rintro _ ⟨⟩
  · rintro _ ⟨⟩

/-- A group beside a dotted key, an array of arrays and an empty schema. -/
def draftFields : Mapping :=
  [(.text "meta", .map
      [(.text "grid", .map [(.text "type", .text "Array"), (.text "required", .bool true),
        (.text "of", .map [(.text "type", .text "Array"),
          (.text "of", .map [(.text "schema", .map [(.text "a.b", .text "String")])])])])]),
    (.text "meta.owner", .map [(.text "schema", .null), (.text "ref", .text "User")])]

def draftPaths : Paths :=
  [("meta.grid", .typed (.text arrayKind) ⟨true, false, .null⟩ none
      (.typed (.text arrayKind) Options.none none
        (.typed (.text embeddedKind) Options.none (some [("a.b", .ofKind (.text "String"))])
          .missing))),
    ("meta.owner", .typed (.text embeddedKind) ⟨false, false, .text "User"⟩ (some []) .missing)]

theorem draftFields_read_back :
    AcceptedFields draftFields ∧ flattenFields "" (.map draftFields) = .ok draftPaths ∧
      (∀ entry ∈ draftPaths, entry.2.Regular) ∧ DistinctPaths draftPaths ∧
      flattenFields "" (fieldsOfPaths draftPaths) = .ok draftPaths ∧
      flattenFields "" (fieldsOfPaths draftPaths) = flattenFields "" (.map draftFields) := by
  have accepted : AcceptedFields draftFields := .ofOnlyModel "Draft" rfl
  have flattened : flattenFields "" (.map draftFields) = .ok draftPaths := rfl
  have regular : ∀ entry ∈ draftPaths, entry.2.Regular := fun entry member =>
    (accepted.yields.good draftPaths flattened entry member).regular
  have distinct : DistinctPaths draftPaths := by
    refine ⟨by decide, ?_⟩
    simp only [draftPaths, List.forall_mem_cons]
    refine ⟨.ofNoSchema (.ofNoSchema (.ofSchema ⟨by decide, ?_⟩ .missing)),
      .ofSchema ⟨by decide, by simp⟩ .missing, by simp⟩
    exact List.forall_mem_singleton.mpr (.ofNoSchema .missing)
  obtain ⟨readBack, spelled⟩ := longForms_read_back
  exact ⟨accepted, flattened, regular, distinct, readBack draftPaths regular distinct,
    (spelled draftFields accepted).2 draftPaths flattened distinct⟩

end EntityDiagram
