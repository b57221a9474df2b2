import EntityDiagram.Proofs.Document.Flattening

/-!
# Texts in front of fields

Fields are flattened behind a text, which grows with the keys of the groups that are entered.  The
text only says what stands in front of the paths: what is declared there, and how it is read, is
the same behind every text, and entries that are added to a mapping add their paths behind those
of the mapping.  The main statement is `flattenFields_fronts`.
-/

namespace EntityDiagram

/-! ### Declared fields -/

mutual

/-- The fields that are declared at a path or in the group there, with their paths. -/
def declaredAt (path : Text) : Value → List (Text × Value)
  | .map entries =>
      if isDescriptor (.map entries) then [(path, .map entries)]
      else declaredFields (path ++ ".") entries
  | value => if isDescriptor value then [(path, value)] else []

/-- The declared fields of a mapping and of the groups in it, with their paths, in order. -/
def declaredFields (front : Text) : List (Scalar × Value) → List (Text × Value)
  | [] => []
  | (key, value) :: rest =>
      declaredAt (front ++ key.display) value ++ declaredFields front rest

end

/-- Paths are those of declared fields, with the descriptors that are read there. -/
def Paths.ReadFrom (paths : Paths) (fields : List (Text × Value)) : Prop :=
  (paths.map fun entry => (entry.1, Except.ok entry.2)) =
    fields.map fun field => (field.1, readDescriptor .null field.2)

theorem Paths.ReadFrom.append {paths more : Paths} {fields others : List (Text × Value)}
    (read : paths.ReadFrom fields) (readMore : more.ReadFrom others) :
    Paths.ReadFrom (paths ++ more) (fields ++ others) := by
  unfold ReadFrom at read readMore ⊢
  rw [List.map_append, List.map_append, read, readMore]

theorem Paths.ReadFrom.single {path : Text} {value : Value} {descriptor : Descriptor}
    (read : readDescriptor .null value = .ok descriptor) :
    Paths.ReadFrom [(path, descriptor)] [(path, value)] := by
  rw [ReadFrom, List.map_singleton, List.map_singleton, read]

/-- The paths of a field are read from the fields that are declared there. -/
def ReadsDeclared (value : Value) : Prop :=
  ∀ path paths, fieldPaths path value = .ok paths → paths.ReadFrom (declaredAt path value)

theorem flattenEntries_readFrom {entries : Mapping}
    (each : ∀ entry ∈ entries, ReadsDeclared entry.2) {front : Text} {paths : Paths}
    (flattened : flattenEntries front entries = .ok paths) :
    paths.ReadFrom (declaredFields front entries) := by
  induction entries generalizing paths with
  | nil =>
      rw [flattenEntries] at flattened
      cases flattened
      rw [declaredFields]
      rfl
  | cons entry entries ih =>
      obtain ⟨first, others⟩ := List.forall_mem_cons.mp each
      rw [flattenEntries_cons] at flattened
      obtain ⟨name, written, flattened⟩ := bind_eq_ok_iff.mp flattened
      obtain ⟨here, readHere, flattened⟩ := bind_eq_ok_iff.mp flattened
      obtain ⟨more, readMore, joined⟩ := bind_eq_ok_iff.mp flattened
      cases joined
      rw [declaredFields, ← (written_yields entry.1).good name written]
      exact (first _ _ readHere).append (ih others readMore)

theorem readsDeclared (value : Value) : ReadsDeclared value := by
  intro path paths read
  induction value using Value.induction_on_entries generalizing path paths with
  | map entries each =>
      rw [declaredAt]
      split
      · next declared =>
          obtain ⟨descriptor, readHere, rfl⟩ := fieldPaths_of_isDescriptor declared read
          exact .single readHere
      · next group =>
          rw [fieldPaths_of_group (by simpa using group)] at read
          exact flattenEntries_readFrom each read
  | other value notMap =>
      have declaredHere : declaredAt path value =
          if isDescriptor value then [(path, value)] else [] := by
        cases value with
        | map entries => exact (notMap entries rfl).elim
        | scalar _ | list _ | pair _ _ | set _ =>
            rw [declaredAt]
            simp
      rw [declaredHere]
      split
      · next declared =>
          obtain ⟨descriptor, readHere, rfl⟩ := fieldPaths_of_isDescriptor declared read
          exact .single readHere
      · next group =>
          -- Only a value that counts as missing is read as a group without fields.
          rw [fieldPaths, if_neg group] at read
          split at read
          · cases value with
            | map entries => exact (notMap entries rfl).elim
            | scalar _ | list _ | pair _ _ | set _ =>
                rw [flattenFields] at read
                · cases read
                · simp
          · cases read
            rfl

/-! ### Fronts -/

/-- The schema of a long form is flattened with nothing in front, wherever the long form stands. -/
theorem schema_of_readDescriptor {defaultKind kind : Value} {entries inner : Mapping}
    {options : Options} {schema : Option Paths} {element : Descriptor}
    (read : readDescriptor defaultKind (.map entries) = .ok (.typed kind options schema element))
    (written : Value.lookup? entries "schema" = some (.map inner)) :
    ∃ nested, schema = some nested ∧ flattenFields "" (.map inner) = .ok nested := by
  rw [readDescriptor_map] at read
  obtain ⟨readHere, readSchema, read⟩ := bind_eq_ok_iff.mp read
  obtain ⟨readInner, -, built⟩ := bind_eq_ok_iff.mp read
  cases built
  rw [readSchema_eq, written] at readSchema
  dsimp only at readSchema
  split at readSchema
  · obtain ⟨nested, flattened, rfl⟩ := map_eq_ok_iff.mp readSchema
    exact ⟨nested, rfl, flattened⟩
  · next empty =>
      obtain rfl : inner = [] := by simpa [Value.isTruthy] using empty
      cases readSchema
      exact ⟨[], rfl, by rw [flattenFields, flattenEntries]⟩

theorem flattenEntries_concat (front : Text) (entries others : Mapping) :
    flattenEntries front (entries ++ others) =
      flattenEntries front entries >>= fun here =>
        flattenEntries front others >>= fun more => .ok (here ++ more) := by
  induction entries with
  | nil =>
      rw [List.nil_append, flattenEntries, bind_ok]
      cases flattenEntries front others <;> rfl
  | cons entry entries ih =>
      rw [List.cons_append, flattenEntries_cons, flattenEntries_cons, ih]
      cases entry.1.written with
      | error fault => rfl
      | ok name =>
          rw [bind_ok, bind_ok]
          cases fieldPaths (front ++ name) entry.2 with
          | error fault => rfl
          | ok first =>
              rw [bind_ok, bind_ok]
              cases flattenEntries front entries with
              | error fault => rfl
              | ok here =>
                  rw [bind_ok, bind_ok, bind_ok]
                  cases flattenEntries front others with
                  | error fault => rfl
                  | ok more => exact congrArg Except.ok (List.append_assoc first here more).symm

/-- A text in front of fields is put in front of their paths, and nothing else changes: behind every
text there are the paths of the declared fields, with the descriptors that are read from the
declarations alone, and no text is in front of the paths of a schema in them.  The paths of entries
with other keys come behind. -/
theorem flattenFields_fronts (fields : Mapping) :
    (∀ front more, flattenFields (front ++ more) (.map fields) =
      (fun paths => paths.map fun entry => (front ++ entry.1, entry.2)) <$>
        flattenFields more (.map fields)) ∧
    (∀ front paths, flattenFields front (.map fields) = .ok paths →
      (paths.map fun entry => (entry.1, Except.ok entry.2)) =
        (declaredFields "" fields).map fun field =>
          (front ++ field.1, readDescriptor .null field.2)) ∧
    (∀ defaultKind kind entries inner options schema element,
      readDescriptor defaultKind (.map entries) = .ok (.typed kind options schema element) →
      Value.lookup? entries "schema" = some (.map inner) →
        ∃ nested, schema = some nested ∧ flattenFields "" (.map inner) = .ok nested) ∧
    ∀ others : Mapping, Mapping.KeysDiffer (fields ++ others) → ∀ front,
      flattenFields front (.map (fields.insertAll others)) =
        flattenFields front (.map fields) >>= fun here =>
          flattenFields front (.map others) >>= fun more => .ok (here ++ more) := by
  refine ⟨fun front more => ?_, fun front paths flattened => ?_, ?_, fun others differ front => ?_⟩
  · rw [flattenFields, flattenFields]
    exact flattenEntries_append front more fields
  · rw [flattenFields, flattenEntries_behind] at flattened
    obtain ⟨bare, bareFlattened, rfl⟩ := map_eq_ok_iff.mp flattened
    have read := flattenEntries_readFrom (fun entry _ => readsDeclared entry.2) bareFlattened
    have behind := congrArg (List.map fun reading => (front ++ reading.1, reading.2)) read
    rw [List.map_map, List.map_map] at behind
    rw [Paths.behind, List.map_map]
    exact behind
  · intro defaultKind kind entries inner options schema element read written
    exact schema_of_readDescriptor read written
  · rw [Mapping.insertAll_eq_append differ, flattenFields, flattenFields, flattenFields]
    exact flattenEntries_concat front fields others

def daySchema : Mapping :=
  [(.text "a.b", .text "Date")]

def dayPaths : Paths :=
  [("a.b", .ofKind (.text "Date"))]

def dayForm : Mapping :=
  [(.text "schema", .map daySchema)]

def dayDescriptor : Descriptor :=
  .typed (.text embeddedKind) Options.none (some dayPaths) .missing

/-- A group with a field that has a schema with a dotted key. -/
def metaFields : Mapping :=
  [(.text "meta", .map [(.text "day", .map dayForm)])]

def titleFields : Mapping :=
  [(.text "title", .text "String")]

theorem metaFields_fronts :
    flattenFields "page." (.map metaFields) = .ok [("page.meta.day", dayDescriptor)] ∧
      ([("page.meta.day", .ok dayDescriptor)] : List (Text × Except Fault Descriptor)) =
        (declaredFields "" metaFields).map
          (fun field => (("page." : Text) ++ field.1, readDescriptor .null field.2)) ∧
      readDescriptor .null (.map dayForm) = .ok dayDescriptor ∧
      flattenFields "" (.map daySchema) = .ok dayPaths ∧
      Mapping.KeysDiffer (metaFields ++ titleFields) ∧
      flattenFields "page." (.map (metaFields.insertAll titleFields)) =
        .ok [("page.meta.day", dayDescriptor), ("page.title", .ofKind (.text "String"))] := by
  obtain ⟨-, readFrom, schemas, concat⟩ := flattenFields_fronts metaFields
  have flattened : flattenFields "page." (.map metaFields) =
      .ok [("page.meta.day", dayDescriptor)] :=
    rfl
  have read : readDescriptor .null (.map dayForm) = .ok dayDescriptor := rfl
  have differ : Mapping.KeysDiffer (metaFields ++ titleFields) := by
    unfold Mapping.KeysDiffer
    decide
  obtain ⟨nested, same, schemaFlattened⟩ := schemas _ _ _ _ _ _ _ read rfl
  cases same
  refine ⟨flattened, readFrom _ _ flattened, read, schemaFlattened, differ, ?_⟩
  rw [concat titleFields differ, flattened]
  rfl

end EntityDiagram
