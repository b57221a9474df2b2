import EntityDiagram.Fault
import EntityDiagram.Schema.Kind

/-!
# Entries of mappings

A document is walked from a mapping to the values of its entries.  This file has the induction
that follows this walk, the lemmas by which a key is looked up, and those by which entries are added
to a mapping.
-/

namespace EntityDiagram

namespace Value

/-- Induction along the entries of mappings.  The parts of other values are never visited. -/
@[elab_as_elim]
theorem induction_on_entries {motive : Value → Prop} (value : Value)
    (map : ∀ entries : Mapping, (∀ entry ∈ entries, motive entry.2) → motive (.map entries))
    (other : ∀ value : Value, (∀ entries, value ≠ .map entries) → motive value) :
    motive value := by
  match value with
  | .map entries =>
      apply map
      intro entry member
      exact induction_on_entries entry.2 map other
  | .scalar _ | .list _ | .pair _ _ | .set _ =>
      apply other
      intro entries equal
      cases equal
termination_by sizeOf value
decreasing_by
  have smallerEntry := List.sizeOf_lt_of_mem member
  have smallerValue : sizeOf entry.2 < sizeOf entry := by
    cases entry
    simp +arith
  simp only [Value.map.sizeOf_spec]
  omega

@[simp]
theorem lookup?_nil (key : Text) : lookup? [] key = none :=
  rfl

theorem lookup?_cons (entry : Scalar × Value) (entries : Mapping) (key : Text) :
    lookup? (entry :: entries) key =
      if entry.1 = .text key then some entry.2 else lookup? entries key := by
  by_cases same : entry.1 = .text key <;> simp [lookup?, same]

/-- What is looked up is an entry. -/
theorem mem_of_lookup? {entries : Mapping} {key : Text} {value : Value}
    (found : lookup? entries key = some value) : (.text key, value) ∈ entries := by
  induction entries with
  | nil => simp at found
  | cons entry entries ih =>
      rw [lookup?_cons] at found
      split at found
      · next same =>
          obtain rfl := Option.some.inj found
          rw [← same]
          exact List.mem_cons_self
      · exact List.mem_cons_of_mem entry (ih found)

/-- A value of a kind is a text that names the kind. -/
theorem isText_iff {value : Value} {text : Text} :
    value.isText text = true ↔ value = .text text := by
  unfold isText
  split <;> simp_all

end Value

namespace Mapping

/-- Gives the keys of other entries their values as well, in order. -/
def insertAll (entries others : Mapping) : Mapping :=
  others.foldl (fun entries entry => entries.insert entry.1 entry.2) entries

/-- No two entries have the same key. -/
def KeysDiffer (entries : Mapping) : Prop :=
  entries.Pairwise fun entry other => entry.1.sameKey other.1 = false

theorem insert_of_absent {entries : Mapping} {key : Scalar}
    (absent : ∀ entry ∈ entries, entry.1.sameKey key = false) (value : Value) :
    entries.insert key value = entries ++ [(key, value)] := by
  induction entries with
  | nil => rfl
  | cons entry entries ih =>
      obtain ⟨different, rest⟩ := List.forall_mem_cons.mp absent
      rw [Mapping.insert, if_neg (by simp [different]), ih rest]
      rfl

/-- Entries with new keys go behind those that are there. -/
theorem insertAll_eq_append {entries others : Mapping} (differ : KeysDiffer (entries ++ others)) :
    entries.insertAll others = entries ++ others := by
  induction others generalizing entries with
  | nil => exact (List.append_nil _).symm
  | cons other others ih =>
      have absent : ∀ entry ∈ entries, entry.1.sameKey other.1 = false := fun entry member =>
        (List.pairwise_append.mp differ).2.2 entry member other List.mem_cons_self
      rw [List.append_cons] at differ ⊢
      rw [← ih differ, ← insert_of_absent absent]
      rfl

end Mapping

end EntityDiagram
