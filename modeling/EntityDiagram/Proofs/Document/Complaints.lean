import EntityDiagram.Proofs.Document.Acceptance

/-!
# What complaints are about

Every complaint of the check of a document names a place in the document, and shows what stands
there.  A value without form is complained about once, and the complaints about its forms are about
parts of that value.  The main statement is `checkDocument_about`; it needs no more of a check
than that it names the values that it visits by the steps that lead to them.
-/

namespace EntityDiagram

open Value (lookup?)

/-- The values in a value, with the steps that lead to them. -/
inductive Value.Reaches : Value → Place → Value → Prop
  | here {value : Value} : Reaches value [] value
  | entry {entries : Mapping} {entry : Scalar × Value} {steps : Place} {inner : Value}
      (member : entry ∈ entries) (below : Reaches entry.2 steps inner) :
      Reaches (.map entries) (.key entry.1 :: steps) inner
  | item {items : List Value} {index : Nat} {item : Value} {steps : Place} {inner : Value}
      (found : items[index]? = some item) (below : Reaches item steps inner) :
      Reaches (.list items) (.index index :: steps) inner

theorem Value.Reaches.trans {value inner innermost : Value} {steps rest : Place}
    (reaches : value.Reaches steps inner) (further : inner.Reaches rest innermost) :
    value.Reaches (steps ++ rest) innermost := by
  induction reaches with
  | here => exact further
  | entry member _ ih => exact .entry member (ih further)
  | item found _ ih => exact .item found (ih further)

/-- A cause that shows nothing but parts of a value. -/
inductive Cause.Shows : Value → Cause → Prop
  | wrongShape {value : Value} {expected : List Shape} : Shows value (.wrongShape value expected)
  | notKind {value : Value} : Shows value (.notKind value)
  | noForm {value : Value} : Shows value (.noForm value)
  | notGroup {value : Value} : Shows value (.notGroup value)
  | missing {value : Value} {key : Text} : Shows value (.missing key)
  | empty {value : Value} : Shows value (.empty value)
  | unexpected {entries : Mapping} {keys : List Scalar}
      (known : ∀ key ∈ keys, ∃ entry ∈ entries, entry.1 = key) :
      Shows (.map entries) (.unexpected keys)

/-- A complaint about something in a value that stands at a place. -/
inductive Complaint.About (place : Place) (value : Value) : Complaint → Prop
  | mk {steps : Place} {inner : Value} {cause : Cause} (reaches : value.Reaches steps inner)
      (shows : cause.Shows inner) : About place value ⟨place ++ steps, cause⟩

/-- A violation in a value that stands at a place.  Only a value without form has a context, which
is about parts of that value. -/
inductive Violation.About (place : Place) (value : Value) : Violation → Prop
  | single {steps : Place} {inner : Value} {cause : Cause} (reaches : value.Reaches steps inner)
      (shows : cause.Shows inner) : About place value (violationAt (place ++ steps) cause)
  | noForm {steps : Place} {inner : Value} {context : List Complaint}
      (reaches : value.Reaches steps inner)
      (within : ∀ complaint ∈ context, complaint.About (place ++ steps) inner) :
      About place value ⟨⟨place ++ steps, .noForm inner⟩, context⟩

theorem Violation.About.complaint {place : Place} {value : Value} {violation : Violation}
    (about : violation.About place value) : violation.complaint.About place value := by
  cases about with
  | single reaches shows => exact .mk reaches shows
  | noForm reaches _ => exact .mk reaches .noForm

theorem Violation.About.exists_place_eq {place : Place} {value : Value} {violation : Violation}
    (about : violation.About place value) :
    ∃ steps, violation.complaint.place = place ++ steps := by
  cases about with
  | single _ _ => exact ⟨_, rfl⟩
  | noForm _ _ => exact ⟨_, rfl⟩

/-- What is in the value of an entry is in the mapping, a step further away. -/
theorem Violation.About.entry {place : Place} {entries : Mapping} {entry : Scalar × Value}
    (member : entry ∈ entries) {violation : Violation}
    (about : violation.About (place ++ [.key entry.1]) entry.2) :
    violation.About place (.map entries) := by
  cases about with
  | single reaches shows =>
      rw [List.append_assoc]
      exact .single (.entry member reaches) shows
  | noForm reaches within =>
      rw [List.append_assoc] at within ⊢
      exact .noForm (.entry member reaches) within

theorem Violation.About.item {place : Place} {items : List Value} {index : Nat} {item : Value}
    (found : items[index]? = some item) {violation : Violation}
    (about : violation.About (place ++ [.index index]) item) :
    violation.About place (.list items) := by
  cases about with
  | single reaches shows =>
      rw [List.append_assoc]
      exact .single (.item found reaches) shows
  | noForm reaches within =>
      rw [List.append_assoc] at within ⊢
      exact .noForm (.item found reaches) within

/-- Violations that are all about something in a value. -/
def AllAbout (place : Place) (value : Value) (violations : List Violation) : Prop :=
  ∀ violation ∈ violations, violation.About place value

namespace AllAbout

variable {place : Place} {value : Value}

theorem nil : AllAbout place value [] := by
  simp [AllAbout]

theorem append {first second : List Violation} (firstAbout : AllAbout place value first)
    (secondAbout : AllAbout place value second) : AllAbout place value (first ++ second) := by
  rintro violation member
  rcases List.mem_append.mp member with inFirst | inSecond
  · exact firstAbout violation inFirst
  · exact secondAbout violation inSecond

theorem ite {condition : Prop} [Decidable condition] {first second : List Violation}
    (firstAbout : AllAbout place value first) (secondAbout : AllAbout place value second) :
    AllAbout place value (if condition then first else second) := by
  split
  · exact firstAbout
  · exact secondAbout

theorem single {cause : Cause} (shows : cause.Shows value) :
    AllAbout place value [violationAt place cause] := by
  intro violation member
  obtain rfl := List.mem_singleton.mp member
  have about : (violationAt (place ++ []) cause).About place value := .single .here shows
  rwa [List.append_nil] at about

theorem noForm {violations : List Violation} (allAbout : AllAbout place value violations) :
    AllAbout place value (EntityDiagram.noForm place value violations) := by
  intro violation member
  obtain rfl := List.mem_singleton.mp member
  have within : ∀ complaint ∈ violations.map Violation.complaint,
      complaint.About (place ++ []) value := by
    rw [List.append_nil]
    exact List.forall_mem_map.mpr fun violation member => (allAbout violation member).complaint
  have about : Violation.About place value
      ⟨⟨place ++ [], .noForm value⟩, violations.map Violation.complaint⟩ :=
    .noForm .here within
  rwa [List.append_nil] at about

theorem entry {entries : Mapping} {entry : Scalar × Value} (member : entry ∈ entries)
    {violations : List Violation}
    (allAbout : AllAbout (place ++ [.key entry.1]) entry.2 violations) :
    AllAbout place (.map entries) violations :=
  fun violation inViolations => (allAbout violation inViolations).entry member

/-- The violations in the values of all entries are about the mapping. -/
theorem entries {entries : Mapping} {check : Scalar × Value → List Violation}
    (each : ∀ entry ∈ entries, AllAbout (place ++ [.key entry.1]) entry.2 (check entry)) :
    AllAbout place (.map entries) (entries.flatMap check) := by
  intro violation member
  obtain ⟨entry, inEntries, inEntry⟩ := List.mem_flatMap.mp member
  exact (each entry inEntries violation inEntry).entry inEntries

end AllAbout

/-! ### Flat checks -/

section

variable {place : Place} {value : Value}

theorem checkShape_about {expected : List Shape} :
    AllAbout place value (checkShape expected place value) :=
  .ite .nil (.single .wrongShape)

theorem checkKind_about : AllAbout place value (checkKind place value) :=
  .ite .nil (.single .notKind)

theorem checkReference_about : AllAbout place value (checkReference place value) :=
  checkShape_about.append (.ite (.single .empty) .nil)

variable {entries : Mapping}

theorem checkKeys_about {known : List Text} :
    AllAbout place (.map entries) (checkKeys known place entries) := by
  refine .ite .nil (.single (.unexpected ?_))
  intro key listed
  obtain ⟨entry, member, given⟩ := List.mem_filterMap.mp listed
  refine ⟨entry, member, ?_⟩
  split at given
  · split at given <;> simp_all
  · simpa using given

/-- The check of a key is that of the value of an entry. -/
theorem checkKey_about {check : Place → Value → List Violation} {key : Text}
    (checks : ∀ value, lookup? entries key = some value →
      AllAbout (place ++ [.key (.text key)]) value (check (place ++ [.key (.text key)]) value)) :
    AllAbout place (.map entries) (checkKey check place entries key) := by
  unfold checkKey
  split
  · exact .nil
  · next value found =>
      exact .entry (Value.mem_of_lookup? found) (checks value found)

theorem checkLongForm_about : AllAbout place (.map entries) (checkLongForm place entries) := by
  have missing : AllAbout place (.map entries)
      ([violationAt place (.missing "type")] ++ [violationAt place (.missing "schema")]) :=
    (AllAbout.single .missing).append (.single .missing)
  exact .ite .nil missing.noForm

end

/-! ### Fields, nested schemas and elements -/

theorem checkFieldEntries_eq_flatMap (place : Place) (entries : Mapping) :
    checkFieldEntries place entries =
      entries.flatMap fun entry => checkField (place ++ [.key entry.1]) entry.2 := by
  induction entries with
  | nil => rw [checkFieldEntries, List.flatMap_nil]
  | cons entry entries ih => rw [checkFieldEntries, List.flatMap_cons, ih]

/-- The checks of a value, at every place, are about what is in the value. -/
structure ChecksAbout (value : Value) : Prop where
  field : ∀ place, AllAbout place value (checkField place value)
  fields : ∀ place, AllAbout place value (checkFields place value)
  element : ∀ place, AllAbout place value (checkElementValue place value)

section

variable {entries : Mapping} (checks : ∀ entry ∈ entries, ChecksAbout entry.2) (place : Place)

include checks

theorem longFormViolations_about :
    AllAbout place (.map entries) (longFormViolations place entries
      (checkNestedSchema place entries) (checkElement place entries)) := by
  have schema : AllAbout place (.map entries) (checkNestedSchema place entries) := by
    rw [checkNestedSchema_eq]
    exact checkKey_about fun value found => (checks _ (Value.mem_of_lookup? found)).fields _
  have element : AllAbout place (.map entries) (checkElement place entries) := by
    rw [checkElement_eq]
    exact checkKey_about fun value found => (checks _ (Value.mem_of_lookup? found)).element _
  have shape (key : Text) :
      AllAbout place (.map entries) (checkKey (checkShape [.boolean]) place entries key) :=
    checkKey_about fun _ _ => checkShape_about
  have kind : AllAbout place (.map entries) (checkKey checkKind place entries "type") :=
    checkKey_about fun _ _ => checkKind_about
  have reference : AllAbout place (.map entries) (checkKey checkReference place entries "ref") :=
    checkKey_about fun _ _ => checkReference_about
  have flat := (((checkLongForm_about.append kind).append (shape "required")).append
    (shape "unique")).append reference
  exact ((flat.append schema).append element).append checkKeys_about

theorem checkFieldEntries_about :
    AllAbout place (.map entries) (checkFieldEntries place entries) := by
  rw [checkFieldEntries_eq_flatMap]
  exact .entries fun entry member => (checks entry member).field _

theorem groupViolations_about :
    AllAbout place (.map entries)
      (groupViolations place entries (checkFieldEntries place entries)) := by
  have notGroup : AllAbout place (.map entries) [violationAt place (.notGroup (.map entries))] :=
    .single .notGroup
  exact (AllAbout.ite notGroup .nil).append (checkFieldEntries_about checks place)

omit place in
theorem checksAbout_map : ChecksAbout (.map entries) where
  field place := by
    have longForm := longFormViolations_about checks place
    have group := groupViolations_about checks place
    rw [checkField]
    exact .ite .nil (.ite .nil ((checkKind_about.append longForm).append group).noForm)
  fields place := by
    rw [checkFields]
    exact checkFieldEntries_about checks place
  element place := by
    have longForm := longFormViolations_about checks place
    rw [checkElementValue]
    exact .ite .nil (checkKind_about.append longForm).noForm

end

theorem checksAbout_of_not_map {value : Value} (notMap : ∀ entries, value ≠ .map entries) :
    ChecksAbout value where
  field place := by
    have shape : AllAbout place value (checkShape [.object] place value) := checkShape_about
    have notGroup : AllAbout place value [violationAt place (.notGroup value)] := .single .notGroup
    rw [checkField]
    · exact .ite .nil (((checkKind_about.append shape).append shape).append notGroup).noForm
    · exact notMap
  fields place := by
    rw [checkFields]
    · exact checkShape_about
    · exact notMap
  element place := by
    rw [checkElementValue]
    · exact .ite .nil (checkKind_about.append checkShape_about).noForm
    · exact notMap

/-- The induction goes along the entries of mappings; every other value has no fields. -/
theorem checksAbout (value : Value) : ChecksAbout value := by
  induction value using Value.induction_on_entries with
  | map entries checks => exact checksAbout_map checks
  | other value notMap => exact checksAbout_of_not_map notMap

/-! ### Models and documents -/

theorem checkTexts_eq_flatMap (place : Place) (first : Nat) (items : List Value) :
    checkTexts place first items =
      (items.zipIdx first).flatMap fun item =>
        checkShape [.string] (place ++ [.index item.2]) item.1 := by
  induction items generalizing first with
  | nil => rfl
  | cons item items ih => rw [checkTexts, List.zipIdx_cons, List.flatMap_cons, ih]

theorem checkModelEntries_eq_flatMap (place : Place) (entries : Mapping) :
    checkModelEntries place entries =
      entries.flatMap fun entry => checkModel (place ++ [.key entry.1]) entry.2 := by
  induction entries with
  | nil => rfl
  | cons entry entries ih => rw [checkModelEntries, List.flatMap_cons, ih]

theorem checkTexts_about (place : Place) (items : List Value) :
    AllAbout place (.list items) (checkTexts place 0 items) := by
  intro violation member
  rw [checkTexts_eq_flatMap] at member
  obtain ⟨⟨item, index⟩, inItems, inItem⟩ := List.mem_flatMap.mp member
  exact (checkShape_about violation inItem).item (List.mem_zipIdx_iff_getElem?.mp inItems)

theorem checkNames_about (place : Place) (value : Value) :
    AllAbout place value (checkNames place value) := by
  unfold checkNames
  split
  · exact checkTexts_about place _
  · exact checkShape_about

theorem checkModel_about (place : Place) (value : Value) :
    AllAbout place value (checkModel place value) := by
  unfold checkModel
  split
  · next entries =>
      have fields : AllAbout place (.map entries) (checkKey checkFields place entries "fields") :=
        checkKey_about fun value _ => (checksAbout value).fields _
      have names (key : Text) : AllAbout place (.map entries)
          (checkKey checkNames place entries key) :=
        checkKey_about fun value _ => checkNames_about _ value
      exact ((fields.append (names "methods")).append (names "statics")).append checkKeys_about
  · exact checkShape_about

theorem checkModelEntries_about (place : Place) (entries : Mapping) :
    AllAbout place (.map entries) (checkModelEntries place entries) := by
  rw [checkModelEntries_eq_flatMap]
  exact .entries fun entry _ => checkModel_about _ entry.2

theorem checkModels_about (place : Place) (value : Value) :
    AllAbout place value (checkModels place value) := by
  unfold checkModels
  split
  · next entries =>
      have empty : AllAbout place (.map entries) [violationAt place (.empty (.map entries))] :=
        .single .empty
      exact (AllAbout.ite empty .nil).append (checkModelEntries_about place entries)
  · exact checkShape_about

/-- Every violation of a document is about something in the document. -/
theorem checkDocument_about (document : Mapping) :
    AllAbout [] (.map document) (checkDocument (.map document)) := by
  have missing : AllAbout [] (.map document) [violationAt [] (.missing "models")] :=
    .single .missing
  have models : AllAbout [] (.map document) (checkKey checkModels [] document "models") :=
    checkKey_about fun value _ => checkModels_about _ value
  exact (AllAbout.ite .nil missing).append models

end EntityDiagram
