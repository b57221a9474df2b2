import EntityDiagram.Proofs.Document.Models
import EntityDiagram.Proofs.Structure.Siblings

/-!
# Flattened fields

What the fields of an accepted document promise about their flattened paths, and that a text in
front of flattened fields stands in front of each of their paths and nowhere else.
-/

namespace EntityDiagram

open Value (lookup?)

/-! ### Accepted fields -/

/-- The fields of a model of an accepted document. -/
def AcceptedFields (fields : Mapping) : Prop :=
  ∃ document name model, validate (.map document) = .ok () ∧
    (name, Value.map model) ∈ modelsOf document ∧ lookup? model "fields" = some (.map fields)

namespace AcceptedFields

/-- The fields of the only model of a document. -/
theorem ofOnlyModel (name : Text) {fields : Mapping}
    (valid : validate (.map [(.text "models", .map
      [(.text name, .map [(.text "fields", .map fields)])])]) = .ok ()) :
    AcceptedFields fields :=
  ⟨_, .text name, [(.text "fields", .map fields)], valid, List.mem_singleton.mpr rfl, rfl⟩

variable {fields : Mapping} (accepted : AcceptedFields fields)

include accepted

theorem grammar : ∀ entry ∈ fields, Grammar.Field entry.2 := by
  obtain ⟨document, name, model, valid, member, declared⟩ := accepted
  have sound := (models_accepted valid).2 _ member
  cases sound with
  | entries _ inGrammar _ _ => exact Grammar.fields_map_iff.mp (inGrammar _ declared)

theorem isWritable : ∀ entry ∈ fields, entry.2.isWritable = true := by
  obtain ⟨document, name, model, valid, member, declared⟩ := accepted
  intro entry inFields
  apply fieldValues_writable valid member
  rw [fieldValues, declared]
  exact List.mem_map_of_mem inFields

/-- Accepted fields are flattened to well-formed paths, if their keys can be written. -/
theorem yields : Yields (flattenFields "" (.map fields))
    (∀ entry ∈ fields, entry.1.isWritable = true) WellFormedPaths := by
  refine ((readsWell (.map fields)).entries fields rfl accepted.grammar "").of_imp ?_
  exact fun keys => isWritable_map_iff.mpr fun entry member =>
    ⟨keys entry member, accepted.isWritable entry member⟩

end AcceptedFields

/-! ### The paths of one field -/

/-- A declared field has one path, which is its name. -/
theorem fieldPaths_of_isDescriptor {name : Text} {value : Value}
    (declared : isDescriptor value = true) {paths : Paths}
    (read : fieldPaths name value = .ok paths) :
    ∃ descriptor, readDescriptor .null value = .ok descriptor ∧ paths = [(name, descriptor)] := by
  rw [fieldPaths, if_pos declared] at read
  obtain ⟨descriptor, readHere, same⟩ := map_eq_ok_iff.mp read
  exact ⟨descriptor, readHere, same.symm⟩

/-- The paths of a group are those of its fields, behind the group's own. -/
theorem fieldPaths_of_group {path : Text} {entries : Mapping}
    (notDeclared : isDescriptor (.map entries) = false) :
    fieldPaths path (.map entries) = flattenEntries (path ++ ".") entries := by
  rw [fieldPaths, if_neg (by simp [notDeclared])]
  cases entries with
  | nil =>
      rw [flattenEntries]
      rfl
  | cons entry entries =>
      have notEmpty : (Value.map (entry :: entries)).isTruthy = true := rfl
      rw [if_pos notEmpty, flattenFields]

/-! ### Texts in front -/

/-- A text in front of the fields of a mapping is in front of their paths. -/
def FlattensBehind (value : Value) : Prop :=
  ∀ entries, value = .map entries → ∀ front more : Text,
    flattenEntries (front ++ more) entries = Paths.behind front <$> flattenEntries more entries

theorem FlattensBehind.fieldPaths {value : Value} (flattens : FlattensBehind value)
    (front path : Text) :
    fieldPaths (front ++ path) value = Paths.behind front <$> fieldPaths path value := by
  unfold EntityDiagram.fieldPaths
  split
  · cases readDescriptor .null value <;> rfl
  · split
    · cases value with
      | map entries =>
          rw [flattenFields, flattenFields, List.append_assoc]
          exact flattens entries rfl front (path ++ ".")
      | scalar _ | list _ | pair _ _ | set _ =>
          rw [flattenFields, flattenFields]
          · rfl
          all_goals simp
    · rfl

theorem flattensBehind_map {entries : Mapping}
    (flatten : ∀ entry ∈ entries, FlattensBehind entry.2) : FlattensBehind (.map entries) := by
  rintro _ ⟨⟩ front more
  induction entries with
  | nil =>
      rw [flattenEntries, flattenEntries]
      rfl
  | cons entry entries ih =>
      -- The key is read first, then the field, then the rest; each of them can fail.
      obtain ⟨flattensEntry, flattenRest⟩ := List.forall_mem_cons.mp flatten
      rw [flattenEntries_cons, flattenEntries_cons, ih flattenRest]
      cases entry.1.written with
      | error fault => rfl
      | ok name =>
          rw [bind_ok, bind_ok, List.append_assoc, flattensEntry.fieldPaths]
          cases EntityDiagram.fieldPaths (more ++ name) entry.2 with
          | error fault => rfl
          | ok here =>
              cases flattenEntries more entries with
              | error fault => rfl
              | ok rest => exact congrArg Except.ok List.map_append.symm

theorem flattensBehind (value : Value) : FlattensBehind value := by
  induction value using Value.induction_on_entries with
  | map entries flatten => exact flattensBehind_map flatten
  | other value notMap =>
      intro entries same
      exact (notMap entries same).elim

/-- Schemas in descriptors do not see what is in front of the fields around them. -/
theorem flattenEntries_append (front more : Text) (entries : Mapping) :
    flattenEntries (front ++ more) entries =
      Paths.behind front <$> flattenEntries more entries :=
  flattensBehind (.map entries) entries rfl front more

theorem flattenEntries_behind (front : Text) (entries : Mapping) :
    flattenEntries front entries = Paths.behind front <$> flattenEntries "" entries := by
  rw [← flattenEntries_append]
  exact congrArg (flattenEntries · entries) (List.append_nil front).symm

end EntityDiagram
