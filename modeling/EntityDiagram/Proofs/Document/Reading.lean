import EntityDiagram.Proofs.Document.Grammar
import EntityDiagram.Proofs.Outcome
import EntityDiagram.Schema.Fields

/-!
# Reading fields of the grammar

The fields of a document are read without regard to the checks that it has passed.  This file
proves that the two descriptions of the format agree: fields of the grammar are read, as far as
their keys can be written, and what is read from them is well formed at every depth.
-/

namespace EntityDiagram

open Value (lookup? lookup?_cons)

/-- A descriptor as the format promises it: of a known kind, with a reference that names something
or none, and with an element only if it is an array.  So are all descriptors in it, none of which
is missing. -/
inductive Descriptor.WellFormed : Descriptor → Prop
  | typed {kind : Value} {options : Options} {schema : Option Paths} {element : Descriptor}
      (known : Grammar.Kind kind)
      (ref : options.ref = .null ∨ ∃ name ≠ [], options.ref = .text name)
      (nested : ∀ paths, schema = some paths → ∀ entry ∈ paths, WellFormed entry.2)
      (isArray : element ≠ .missing → kind = .text arrayKind)
      (inner : element ≠ .missing → WellFormed element) :
      WellFormed (.typed kind options schema element)

/-- Every path of a schema has a well-formed descriptor. -/
def WellFormedPaths (paths : Paths) : Prop :=
  ∀ entry ∈ paths, entry.2.WellFormed

/-! ### Kinds and flags -/

theorem Grammar.Kind.isTruthy {kind : Value} (known : Grammar.Kind kind) :
    kind.isTruthy = true := by
  obtain ⟨name, member, rfl⟩ := known
  have nonempty : ∀ name ∈ allKinds, name.isEmpty = false := by decide
  simp [Value.isTruthy, Scalar.isTruthy, nonempty name member]

theorem Grammar.Kind.embedded : Grammar.Kind (.text embeddedKind) :=
  ⟨embeddedKind, by decide, rfl⟩

theorem Descriptor.WellFormed.ofKind {kind : Value} (known : Grammar.Kind kind) :
    (Descriptor.ofKind kind).WellFormed := by
  apply WellFormed.typed known (.inl rfl)
  · intro paths absent
    cases absent
  · exact fun present => (present rfl).elim
  · exact fun present => (present rfl).elim

/-- A default that is given has to be a kind. -/
theorem longFormKind_known {defaultKind : Value} {entries : Mapping}
    (default : defaultKind.isTruthy = true → Grammar.Kind defaultKind)
    (type : ∀ value, lookup? entries "type" = some value → Grammar.Kind value) :
    Grammar.Kind (longFormKind defaultKind entries) := by
  unfold longFormKind
  cases declared : lookup? entries "type" with
  | some kind => simp [(type kind declared).isTruthy, type kind declared]
  | none =>
      have nullIsFalsy : ¬ Value.null.isTruthy = true := by decide
      simp only [Option.getD_none, if_neg nullIsFalsy]
      split
      · next given => exact default given
      · exact Grammar.Kind.embedded

theorem longFormOptions_ref {entries : Mapping}
    (ref : ∀ value, lookup? entries "ref" = some value → ∃ name ≠ [], value = .text name) :
    (longFormOptions entries).ref = .null ∨
      ∃ name ≠ [], (longFormOptions entries).ref = .text name := by
  unfold longFormOptions
  cases declared : lookup? entries "ref" with
  | some value => exact .inr (ref value declared)
  | none => exact .inl rfl

/-! ### Steps of reading -/

/-- A long form is read by its nested schema and, in an array, by its element. -/
theorem readDescriptor_map (defaultKind : Value) (entries : Mapping) :
    readDescriptor defaultKind (.map entries) =
      readSchema entries >>= fun schema =>
        (if (longFormKind defaultKind entries).isText arrayKind then readElement entries
          else .ok .missing) >>= fun element =>
            .ok (.typed (longFormKind defaultKind entries) (longFormOptions entries) schema
              element) := by
  rw [readDescriptor]
  congr
  funext schema
  dsimp only
  split <;> rfl

/-- The paths of one field, which is read as a descriptor or flattened as a group. -/
def fieldPaths (path : Text) (value : Value) : Except Fault Paths :=
  if isDescriptor value then
    (fun descriptor => [(path, descriptor)]) <$> readDescriptor .null value
  else if value.isTruthy then flattenFields (path ++ ".") value
  else .ok []

/-- Fields are flattened one after another. -/
theorem flattenEntries_cons (front : Text) (entry : Scalar × Value) (rest : Mapping) :
    flattenEntries front (entry :: rest) =
      entry.1.written >>= fun name =>
        fieldPaths (front ++ name) entry.2 >>= fun here =>
          flattenEntries front rest >>= fun more => .ok (here ++ more) := by
  rw [flattenEntries]
  unfold fieldPaths
  congr
  funext name
  split
  · rfl
  · split <;> rfl

theorem readSchema_eq (entries : Mapping) :
    readSchema entries =
      match lookup? entries "schema" with
      | some value => if value.isTruthy then some <$> flattenFields "" value else .ok (some [])
      | none => .ok none := by
  induction entries with
  | nil => simp [readSchema]
  | cons entry entries ih =>
      by_cases same : entry.1 = .text "schema"
      · simp [readSchema, lookup?_cons, same]
      · simpa [readSchema, lookup?_cons, same] using ih

theorem readElement_eq (entries : Mapping) :
    readElement entries =
      match lookup? entries "of" with
      | some value =>
          if value.isNull then .ok .missing else readDescriptor (.text embeddedKind) value
      | none => .ok .missing := by
  induction entries with
  | nil => simp [readElement]
  | cons entry entries ih =>
      by_cases same : entry.1 = .text "of"
      · simp [readElement, lookup?_cons, same]
      · simpa [readElement, lookup?_cons, same] using ih

/-- A mapping can be written when all its keys and values can. -/
theorem isWritable_map_iff {entries : Mapping} :
    (Value.map entries).isWritable = true ↔
      ∀ entry ∈ entries, entry.1.isWritable = true ∧ entry.2.isWritable = true := by
  simp only [Value.isWritable]
  induction entries with
  | nil => simp [Value.entriesAreWritable]
  | cons entry entries ih => simp [Value.entriesAreWritable, ih]

theorem written_yields (key : Scalar) :
    Yields key.written (key.isWritable = true) fun name => name = key.display := by
  unfold Scalar.written
  constructor
  · intro writable
    exact ⟨key.display, by simp [writable]⟩
  · intro name written
    split at written
    · exact (Except.ok.inj written).symm
    · cases written

/-! ### Fields -/

/-- Fields of the grammar are read as far as they can be written, and so is everything below. -/
structure ReadsWell (value : Value) : Prop where
  longForm : Grammar.LongForm value →
    ∀ defaultKind : Value, (defaultKind.isTruthy = true → Grammar.Kind defaultKind) →
      Yields (readDescriptor defaultKind value) (value.isWritable = true) Descriptor.WellFormed
  entries : ∀ entries, value = .map entries → (∀ entry ∈ entries, Grammar.Field entry.2) →
    ∀ front, Yields (flattenFields front value) (value.isWritable = true) WellFormedPaths

theorem readKind_yields {kind : Value} (known : Grammar.Kind kind) (defaultKind : Value) :
    Yields (readDescriptor defaultKind kind) (kind.isWritable = true) Descriptor.WellFormed := by
  obtain ⟨name, member, rfl⟩ := known
  rw [readDescriptor]
  exact .ok (.ofKind ⟨name, member, rfl⟩)

/-- A field that is read as a descriptor is a kind or a long form, and any other is a group. -/
theorem ReadsWell.field {value : Value} (reads : ReadsWell value)
    (field : Grammar.Field value) (path : Text) :
    Yields (fieldPaths path value) (value.isWritable = true) WellFormedPaths := by
  have noDefault : Value.null.isTruthy = true → Grammar.Kind .null := by
    intro impossible
    cases impossible
  have single (descriptor : Descriptor) (wellFormed : descriptor.WellFormed) :
      WellFormedPaths [(path, descriptor)] := by
    simpa [WellFormedPaths] using wellFormed
  unfold fieldPaths
  cases field with
  | kind known =>
      have read := (readKind_yields known .null).map single
      obtain ⟨name, _, rfl⟩ := known
      simpa [isDescriptor] using read
  | longForm form =>
      have read := (reads.longForm form .null noDefault).map single
      cases form with
      | mk form _ _ _ _ _ _ _ =>
          rw [if_pos (isDescriptor_map_iff.mpr form)]
          exact read
  | group form =>
      cases form with
      | mk noForm fields =>
          rw [if_neg fun isDescriptor => noForm (isDescriptor_map_iff.mp isDescriptor)]
          split
          · exact reads.entries _ rfl fields (path ++ ".")
          · exact .ok (by simp [WellFormedPaths])

theorem flattenEntries_yields {entries : Mapping}
    (reads : ∀ entry ∈ entries, ReadsWell entry.2)
    (fields : ∀ entry ∈ entries, Grammar.Field entry.2) (front : Text) :
    Yields (flattenEntries front entries) ((Value.map entries).isWritable = true)
      WellFormedPaths := by
  rw [isWritable_map_iff]
  induction entries with
  | nil =>
      rw [flattenEntries]
      exact .ok (by simp [WellFormedPaths])
  | cons entry entries ih =>
      obtain ⟨readsEntry, readsRest⟩ := List.forall_mem_cons.mp reads
      obtain ⟨field, restFields⟩ := List.forall_mem_cons.mp fields
      have entryYields := readsEntry.field field
      have restYields := ih readsRest restFields
      rw [flattenEntries_cons]
      rw [List.forall_mem_cons]
      refine ((written_yields entry.1).of_imp ?_).bind fun name _ => ?_
      · exact fun writable => writable.1.1
      refine ((entryYields (front ++ name)).of_imp ?_).bind fun here hereWell => ?_
      · exact fun writable => writable.1.2
      refine (restYields.of_imp ?_).bind fun more moreWell => ?_
      · exact fun writable => writable.2
      apply Yields.ok
      intro path member
      rcases List.mem_append.mp member with inHere | inMore
      · exact hereWell path inHere
      · exact moreWell path inMore

theorem readSchema_yields {entries : Mapping} (reads : ∀ entry ∈ entries, ReadsWell entry.2)
    (schema : ∀ value, lookup? entries "schema" = some value → Grammar.Fields value) :
    Yields (readSchema entries) ((Value.map entries).isWritable = true)
      fun nested => ∀ paths, nested = some paths → WellFormedPaths paths := by
  rw [readSchema_eq]
  cases declared : lookup? entries "schema" with
  | none => exact .ok (by simp)
  | some value =>
      have member := Value.mem_of_lookup? declared
      simp only
      split
      · cases schema value declared with
        | null => contradiction
        | @entries inner fields =>
            have read : Yields (flattenFields "" (.map inner))
                ((Value.map entries).isWritable = true) WellFormedPaths :=
              ((reads _ member).entries inner rfl fields "").of_imp fun writable =>
                (isWritable_map_iff.mp writable _ member).2
            exact read.map (by simp)
      · exact .ok (by simp [WellFormedPaths])

theorem readElement_yields {entries : Mapping} (reads : ∀ entry ∈ entries, ReadsWell entry.2)
    (element : ∀ value, lookup? entries "of" = some value → Grammar.Element value) :
    Yields (readElement entries) ((Value.map entries).isWritable = true)
      fun descriptor => descriptor ≠ .missing → descriptor.WellFormed := by
  rw [readElement_eq]
  cases declared : lookup? entries "of" with
  | none => exact .ok fun present => (present rfl).elim
  | some value =>
      have member := Value.mem_of_lookup? declared
      have writableValue (writable : (Value.map entries).isWritable = true) :
          value.isWritable = true :=
        (isWritable_map_iff.mp writable _ member).2
      have read : Yields (readDescriptor (.text embeddedKind) value) (value.isWritable = true)
          Descriptor.WellFormed := by
        cases element value declared with
        | kind known => exact readKind_yields known _
        | longForm form =>
            exact (reads _ member).longForm form _ fun _ => Grammar.Kind.embedded
      simp only
      split
      · exact .ok fun present => (present rfl).elim
      · exact {
          answers := fun writable => read.answers (writableValue writable)
          good := fun descriptor answered _ => read.good descriptor answered }

theorem readsWell_map {entries : Mapping} (reads : ∀ entry ∈ entries, ReadsWell entry.2) :
    ReadsWell (.map entries) where
  longForm form defaultKind default := by
    cases form with
    | mk form type required unique ref schema element known =>
        rw [readDescriptor_map]
        refine (readSchema_yields reads schema).bind fun nested nestedWell => ?_
        have elementRead : Yields
            (if (longFormKind defaultKind entries).isText arrayKind then readElement entries
              else .ok .missing)
            ((Value.map entries).isWritable = true)
            fun inner => (inner ≠ .missing → longFormKind defaultKind entries = .text arrayKind) ∧
              (inner ≠ .missing → inner.WellFormed) := by
          split
          · next isArray =>
              have read := readElement_yields reads element
              exact {
                answers := read.answers
                good := fun inner answered =>
                  ⟨fun _ => Value.isText_iff.mp isArray, read.good inner answered⟩ }
          · exact .ok ⟨fun present => (present rfl).elim, fun present => (present rfl).elim⟩
        refine elementRead.bind fun inner innerWell => ?_
        exact .ok (.typed (longFormKind_known default type) (longFormOptions_ref ref) nestedWell
          innerWell.1 innerWell.2)
  entries inner equal fields front := by
    cases equal
    rw [flattenFields]
    exact flattenEntries_yields reads fields front

/-- The induction goes along the entries of mappings; every other value has no fields to read. -/
theorem readsWell (value : Value) : ReadsWell value := by
  induction value using Value.induction_on_entries with
  | map entries reads => exact readsWell_map reads
  | other value notMap =>
      constructor
      · intro form
        cases form
        exact (notMap _ rfl).elim
      · intro entries equal
        exact (notMap entries equal).elim

end EntityDiagram
