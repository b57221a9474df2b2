import EntityDiagram.Proofs.Document.Complaints

/-!
# What is wrong with a document

A document with models breaks the format in its models: by their shape, by their keys, by their
fields and by the names of their methods.  A field that is none of the grammar is one breach,
whatever is wrong inside it.  The main statement is `mem_complaints_checkDocument`: these are the
complaints of the check.
-/

namespace EntityDiagram

open Value (lookup?)

/-- What is wrong with the fields of a model. -/
inductive FieldsBreach (place : Place) : Value → Complaint → Prop
  | shape {value : Value} (notMap : ∀ entries, value ≠ .map entries) (notNull : value ≠ .null) :
      FieldsBreach place value ⟨place, .wrongShape value [.object, .null]⟩
  | field {entries : Mapping} {entry : Scalar × Value} (member : entry ∈ entries)
      (refused : ¬ Grammar.Field entry.2) :
      FieldsBreach place (.map entries) ⟨place ++ [.key entry.1], .noForm entry.2⟩

/-- What is wrong with the names of the methods of a model. -/
inductive NamesBreach (place : Place) : Value → Complaint → Prop
  | shape {value : Value} (notList : ∀ items, value ≠ .list items) (notNull : value ≠ .null) :
      NamesBreach place value ⟨place, .wrongShape value [.array, .null]⟩
  | name {items : List Value} {index : Nat} {item : Value} (found : items[index]? = some item)
      (notText : ∀ name, item ≠ .text name) :
      NamesBreach place (.list items) ⟨place ++ [.index index], .wrongShape item [.string]⟩

/-- The keys of a mapping that are not among the known ones. -/
def unknownKeys (known : List Text) (entries : Mapping) : List Scalar :=
  (entries.map Prod.fst).filter fun key => key ∉ known.map Scalar.text

/-- What is wrong with a model. -/
inductive ModelBreach (place : Place) : Value → Complaint → Prop
  | shape {value : Value} (notMap : ∀ entries, value ≠ .map entries) (notNull : value ≠ .null) :
      ModelBreach place value ⟨place, .wrongShape value [.object, .null]⟩
  | keys {entries : Mapping} (unknown : unknownKeys modelKeys entries ≠ []) :
      ModelBreach place (.map entries) ⟨place, .unexpected (unknownKeys modelKeys entries)⟩
  | fields {entries : Mapping} {value : Value} {complaint : Complaint}
      (found : lookup? entries "fields" = some value)
      (breach : FieldsBreach (place ++ [.key (.text "fields")]) value complaint) :
      ModelBreach place (.map entries) complaint
  | names {entries : Mapping} {key : Text} {value : Value} {complaint : Complaint}
      (isNames : key ∈ (["methods", "statics"] : List Text))
      (found : lookup? entries key = some value)
      (breach : NamesBreach (place ++ [.key (.text key)]) value complaint) :
      ModelBreach place (.map entries) complaint

/-- What is wrong with the models of a document. -/
def ModelsBreach (models : Mapping) (complaint : Complaint) : Prop :=
  ∃ entry ∈ models, ModelBreach [.key (.text "models"), .key entry.1] entry.2 complaint

/-! ### Complaints of checks -/

/-- The complaints of violations, without their contexts. -/
def complaintsOf (violations : List Violation) : List Complaint :=
  violations.map Violation.complaint

@[simp]
theorem complaintsOf_append (first second : List Violation) :
    complaintsOf (first ++ second) = complaintsOf first ++ complaintsOf second :=
  List.map_append

theorem complaintsOf_eq_nil_iff {violations : List Violation} :
    complaintsOf violations = [] ↔ violations = [] :=
  List.map_eq_nil_iff

theorem mem_complaintsOf_flatMap {α : Type} {items : List α} {check : α → List Violation}
    {complaint : Complaint} :
    complaint ∈ complaintsOf (items.flatMap check) ↔
      ∃ item ∈ items, complaint ∈ complaintsOf (check item) := by
  rw [complaintsOf, List.map_flatMap, List.mem_flatMap]
  rfl

section

variable {place : Place} {complaint : Complaint}

theorem mem_complaints_checkShape {expected : List Shape} {value : Value} :
    complaint ∈ complaintsOf (checkShape expected place value) ↔
      (∀ shape ∈ expected, shape.admits value = false) ∧
        complaint = ⟨place, .wrongShape value expected⟩ := by
  unfold checkShape
  split
  · next admitted =>
      obtain ⟨shape, member, admits⟩ := List.any_eq_true.mp admitted
      refine iff_of_false (List.not_mem_nil) fun both => ?_
      rw [both.1 shape member] at admits
      cases admits
  · next refused =>
      have refusedAll : ∀ shape ∈ expected, shape.admits value = false := by
        simpa using refused
      exact List.mem_singleton.trans (iff_and_self.mpr fun _ => refusedAll)

/-- The unknown keys can be collected entry by entry. -/
theorem filterMap_eq_unknownKeys (known : List Text) {entries : Mapping}
    {keep : Scalar × Value → Option Scalar}
    (keeps : ∀ entry, keep entry =
      if entry.1 ∈ known.map Scalar.text then none else some entry.1) :
    entries.filterMap keep = unknownKeys known entries := by
  induction entries with
  | nil => rfl
  | cons entry entries ih =>
      rw [List.filterMap_cons, ih, unknownKeys, unknownKeys, List.map_cons, List.filter_cons, keeps]
      by_cases listed : entry.1 ∈ known.map Scalar.text <;> simp only [listed] <;> rfl

theorem checkKeys_eq (known : List Text) (place : Place) (entries : Mapping) :
    checkKeys known place entries =
      if unknownKeys known entries = [] then []
      else [violationAt place (.unexpected (unknownKeys known entries))] := by
  unfold checkKeys
  dsimp only
  rw [filterMap_eq_unknownKeys known]
  · simp only [List.isEmpty_iff]
  · rintro ⟨key, value⟩
    cases key <;> simp

theorem mem_complaints_checkKeys {known : List Text} {entries : Mapping} :
    complaint ∈ complaintsOf (checkKeys known place entries) ↔
      unknownKeys known entries ≠ [] ∧
        complaint = ⟨place, .unexpected (unknownKeys known entries)⟩ := by
  rw [checkKeys_eq]
  split
  · next known => simp [complaintsOf, known]
  · next unknown => simp [complaintsOf, violationAt, unknown]

theorem mem_complaints_checkKey {check : Place → Value → List Violation} {entries : Mapping}
    {key : Text} :
    complaint ∈ complaintsOf (checkKey check place entries key) ↔
      ∃ value, lookup? entries key = some value ∧
        complaint ∈ complaintsOf (check (place ++ [.key (.text key)]) value) := by
  unfold checkKey
  cases lookup? entries key <;> simp [complaintsOf]

/-- A field is complained about once at most. -/
theorem checkField_cases (place : Place) (value : Value) :
    checkField place value = [] ∨
      ∃ context, checkField place value = [⟨⟨place, .noForm value⟩, context⟩] := by
  by_cases isMap : ∃ entries, value = .map entries
  · obtain ⟨entries, rfl⟩ := isMap
    simp only [checkField, noForm]
    split
    · exact .inl rfl
    · split
      · exact .inl rfl
      · exact .inr ⟨_, rfl⟩
  · rw [checkField]
    · split
      · exact .inl rfl
      · exact .inr ⟨_, rfl⟩
    · exact fun entries same => isMap ⟨entries, same⟩

theorem mem_complaints_checkField {value : Value} :
    complaint ∈ complaintsOf (checkField place value) ↔
      ¬ Grammar.Field value ∧ complaint = ⟨place, .noForm value⟩ := by
  rw [← (checksAgree value).field place]
  rcases checkField_cases place value with same | ⟨context, same⟩
  · simp [same, complaintsOf]
  · simp [same, complaintsOf]

theorem admits_object_iff {value : Value} :
    Shape.object.admits value = true ↔ ∃ entries, value = .map entries := by
  unfold Shape.admits
  split <;> simp_all

theorem admits_array_iff {value : Value} :
    Shape.array.admits value = true ↔ ∃ items, value = .list items := by
  unfold Shape.admits
  split <;> simp_all

theorem admits_null_iff {value : Value} : Shape.null.admits value = true ↔ value = .null := by
  unfold Shape.admits
  split <;> simp_all

/-- A value of another shape than the one expected is complained about unless it is null. -/
theorem mem_complaints_checkShape_or_null {shape : Shape} {value : Value}
    (refused : ¬ shape.admits value = true) :
    complaint ∈ complaintsOf (checkShape [shape, .null] place value) ↔
      value ≠ .null ∧ complaint = ⟨place, .wrongShape value [shape, .null]⟩ := by
  have refusedAll : (∀ expected ∈ [shape, .null], expected.admits value = false) ↔
      value ≠ .null := by
    rw [List.forall_mem_cons, List.forall_mem_singleton,
      and_iff_right (Bool.eq_false_iff.mpr refused), Bool.eq_false_iff, ne_eq, admits_null_iff]
  rw [mem_complaints_checkShape, refusedAll]

theorem mem_complaints_checkFields {value : Value} :
    complaint ∈ complaintsOf (checkFields place value) ↔ FieldsBreach place value complaint := by
  by_cases isMap : ∃ entries, value = .map entries
  · obtain ⟨entries, rfl⟩ := isMap
    rw [checkFields, checkFieldEntries_eq_flatMap, mem_complaintsOf_flatMap]
    constructor
    · rintro ⟨entry, member, complains⟩
      obtain ⟨refused, rfl⟩ := mem_complaints_checkField.mp complains
      exact .field member refused
    · intro breach
      cases breach with
      | shape notMap _ => exact (notMap entries rfl).elim
      | @field _ entry member refused =>
          exact ⟨entry, member, mem_complaints_checkField.mpr ⟨refused, rfl⟩⟩
  · have notMap : ∀ entries, value ≠ .map entries := fun entries same => isMap ⟨entries, same⟩
    rw [checkFields, mem_complaints_checkShape_or_null (mt admits_object_iff.mp isMap)]
    · constructor
      · rintro ⟨notNull, rfl⟩
        exact .shape notMap notNull
      · intro breach
        cases breach with
        | shape _ notNull => exact ⟨notNull, rfl⟩
        | field => exact (notMap _ rfl).elim
    · exact notMap

theorem mem_complaints_checkNames {value : Value} :
    complaint ∈ complaintsOf (checkNames place value) ↔ NamesBreach place value complaint := by
  by_cases isList : ∃ items, value = .list items
  · obtain ⟨items, rfl⟩ := isList
    rw [checkNames, checkTexts_eq_flatMap, mem_complaintsOf_flatMap]
    constructor
    · rintro ⟨⟨item, index⟩, listed, complains⟩
      obtain ⟨refused, rfl⟩ := mem_complaints_checkShape.mp complains
      refine .name (List.mem_zipIdx_iff_getElem?.mp listed) ?_
      rintro name rfl
      cases refused .string (List.mem_singleton.mpr rfl)
    · intro breach
      cases breach with
      | shape notList _ => exact (notList items rfl).elim
      | @name _ index item found notText =>
          refine ⟨(item, index), List.mem_zipIdx_iff_getElem?.mpr found, ?_⟩
          refine mem_complaints_checkShape.mpr ⟨List.forall_mem_singleton.mpr ?_, rfl⟩
          rw [Bool.eq_false_iff, ne_eq, admits_string_iff]
          rintro ⟨name, same⟩
          exact notText name same
  · have notList : ∀ items, value ≠ .list items := fun items same => isList ⟨items, same⟩
    rw [checkNames, mem_complaints_checkShape_or_null (mt admits_array_iff.mp isList)]
    · constructor
      · rintro ⟨notNull, rfl⟩
        exact .shape notList notNull
      · intro breach
        cases breach with
        | shape _ notNull => exact ⟨notNull, rfl⟩
        | name => exact (notList _ rfl).elim
    · exact notList

theorem mem_complaints_checkModel {value : Value} :
    complaint ∈ complaintsOf (checkModel place value) ↔ ModelBreach place value complaint := by
  by_cases isMap : ∃ entries, value = .map entries
  · obtain ⟨entries, rfl⟩ := isMap
    simp only [checkModel, complaintsOf_append, List.mem_append, mem_complaints_checkKey,
      mem_complaints_checkFields, mem_complaints_checkNames, mem_complaints_checkKeys]
    constructor
    · rintro (((⟨value, found, breach⟩ | ⟨value, found, breach⟩) | ⟨value, found, breach⟩) |
        ⟨unknown, rfl⟩)
      · exact .fields found breach
      · exact .names (by decide) found breach
      · exact .names (by decide) found breach
      · exact .keys unknown
    · intro breach
      cases breach with
      | shape notMap _ => exact (notMap entries rfl).elim
      | keys unknown => exact .inr ⟨unknown, rfl⟩
      | fields found breach => exact .inl (.inl (.inl ⟨_, found, breach⟩))
      | @names _ key value _ isNames found breach =>
          rcases List.mem_cons.mp isNames with rfl | isStatics
          · exact .inl (.inl (.inr ⟨value, found, breach⟩))
          · obtain rfl := List.mem_singleton.mp isStatics
            exact .inl (.inr ⟨value, found, breach⟩)
  · have notMap : ∀ entries, value ≠ .map entries := fun entries same => isMap ⟨entries, same⟩
    rw [checkModel, mem_complaints_checkShape_or_null (mt admits_object_iff.mp isMap)]
    · constructor
      · rintro ⟨notNull, rfl⟩
        exact .shape notMap notNull
      · intro breach
        cases breach with
        | shape _ notNull => exact ⟨notNull, rfl⟩
        | keys | fields | names => exact (notMap _ rfl).elim
    · exact notMap

end

/-- A document with models is checked model by model. -/
theorem checkDocument_eq {document models : Mapping}
    (found : lookup? document "models" = some (.map models)) (nonempty : models ≠ []) :
    checkDocument (.map document) = models.flatMap fun entry =>
      checkModel [.key (.text "models"), .key entry.1] entry.2 := by
  have entries : models.isEmpty = false := by
    rw [List.isEmpty_eq_false_iff]
    exact nonempty
  simp [checkDocument, checkKey, found, checkModels, entries, checkModelEntries_eq_flatMap]

/-- The complaints about a document with models are what is wrong with these. -/
theorem mem_complaints_checkDocument {document models : Mapping}
    (found : lookup? document "models" = some (.map models)) (nonempty : models ≠ [])
    {complaint : Complaint} :
    complaint ∈ complaintsOf (checkDocument (.map document)) ↔ ModelsBreach models complaint := by
  rw [checkDocument_eq found nonempty, mem_complaintsOf_flatMap]
  simp only [mem_complaints_checkModel]
  rfl

end EntityDiagram
