import EntityDiagram.Proofs.Document.Complaints
import EntityDiagram.Proofs.Document.Reading

/-!
# Complaints that can be written

A complaint shows nothing but parts of the document.  So the check of a document that can be written
can be carried out: every complaint can be written as well, whatever the document violates.
-/

namespace EntityDiagram

open Value (lookup?)

theorem lookup?_writable {entries : Mapping} (writable : (Value.map entries).isWritable = true)
    {key : Text} {value : Value} (found : lookup? entries key = some value) :
    value.isWritable = true :=
  (isWritable_map_iff.mp writable _ (Value.mem_of_lookup? found)).2

theorem isWritable_list_iff {items : List Value} :
    (Value.list items).isWritable = true ↔ ∀ item ∈ items, item.isWritable = true := by
  rw [Value.isWritable]
  induction items with
  | nil => simp [Value.areWritable]
  | cons item items ih => simp [Value.areWritable, ih]

/-- What is in a value can be written, and so can the steps to it. -/
theorem Value.Reaches.isWritable {value inner : Value} {steps : Place}
    (reaches : value.Reaches steps inner) (writable : value.isWritable = true) :
    Place.isWritable steps = true ∧ inner.isWritable = true := by
  induction reaches with
  | here => exact ⟨rfl, writable⟩
  | @entry entries entry steps inner member _ ih =>
      obtain ⟨keyWritable, valueWritable⟩ := isWritable_map_iff.mp writable entry member
      obtain ⟨stepsWritable, innerWritable⟩ := ih valueWritable
      exact ⟨Bool.and_eq_true_iff.mpr ⟨keyWritable, stepsWritable⟩, innerWritable⟩
  | @item items index item steps inner found _ ih =>
      exact ih (isWritable_list_iff.mp writable item (List.mem_of_getElem? found))

theorem Cause.Shows.isWritable {value : Value} {cause : Cause} (shows : cause.Shows value)
    (writable : value.isWritable = true) : cause.isWritable = true := by
  cases shows with
  | wrongShape | notKind | noForm | notGroup | empty => exact writable
  | missing => rfl
  | unexpected known =>
      refine List.all_eq_true.mpr fun key member => ?_
      obtain ⟨entry, inEntries, rfl⟩ := known key member
      exact (isWritable_map_iff.mp writable entry inEntries).1

theorem Complaint.About.isWritable {place : Place} {value : Value} {complaint : Complaint}
    (about : complaint.About place value) (placeWritable : place.isWritable = true)
    (writable : value.isWritable = true) : complaint.isWritable = true := by
  cases about with
  | mk reaches shows =>
      obtain ⟨stepsWritable, innerWritable⟩ := reaches.isWritable writable
      have whole := Bool.and_eq_true_iff.mpr ⟨placeWritable, stepsWritable⟩
      rw [Place.isWritable, Place.isWritable, ← List.all_append] at whole
      exact Bool.and_eq_true_iff.mpr ⟨whole, shows.isWritable innerWritable⟩

/-- The context of a violation can be written when its complaint can: it shows no other values. -/
theorem Violation.About.isWritable_eq {place : Place} {value : Value} {violation : Violation}
    (about : violation.About place value) :
    violation.isWritable = violation.complaint.isWritable := by
  cases about with
  | single reaches shows => simp [Violation.isWritable, violationAt]
  | noForm reaches within =>
      refine Bool.and_eq_left_iff_imp.mpr fun writable => ?_
      obtain ⟨placeWritable, innerWritable⟩ := Bool.and_eq_true_iff.mp writable
      exact List.all_eq_true.mpr fun complaint member =>
        (within complaint member).isWritable placeWritable innerWritable

section

variable {document : Mapping} (writable : (Value.map document).isWritable = true)

include writable

theorem checkDocument_writable :
    ∀ violation ∈ checkDocument (.map document), violation.isWritable = true := by
  intro violation member
  have about := checkDocument_about document violation member
  rw [about.isWritable_eq]
  exact about.complaint.isWritable rfl writable

omit writable in
theorem fieldValues_of_isWritable {model value : Value} (modelWritable : model.isWritable = true)
    (field : value ∈ fieldValues model) : value.isWritable = true := by
  unfold fieldValues at field
  split at field
  · next entries =>
      split at field
      · next fields found =>
          obtain ⟨entry, member, rfl⟩ := List.mem_map.mp field
          exact (isWritable_map_iff.mp (lookup?_writable modelWritable found) entry member).2
      · cases field
  · cases field

/-- The check of a document that can be written can be carried out. -/
theorem canReport_of_isWritable :
    canReport (.map document) (checkDocument (.map document)) = true := by
  have fields : ∀ field ∈ documentFields (.map document), field.isWritable = true := by
    intro field member
    rw [documentFields] at member
    split at member
    · next models found =>
        obtain ⟨entry, inModels, inModel⟩ := List.mem_flatMap.mp member
        have modelsWritable := lookup?_writable writable found
        exact fieldValues_of_isWritable (isWritable_map_iff.mp modelsWritable entry inModels).2
          inModel
    · cases member
  have violations := checkDocument_writable writable
  simp only [canReport, Bool.and_eq_true, List.all_eq_true, Bool.or_eq_true]
  exact ⟨fun field member => .inr (fields field member), violations⟩

end

end EntityDiagram
