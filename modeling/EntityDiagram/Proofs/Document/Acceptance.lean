import EntityDiagram.Proofs.Document.Grammar
import EntityDiagram.Catalog

/-!
# The checks accept the grammar

A check that complains about nothing is one that its value passes.  Each check of the format is
related to its part of the grammar, first the flat ones, then those of fields, nested schemas and
elements by one induction along the entries of mappings, and last those of models and documents.
The main statement is `validate_eq_ok_iff`: a document is accepted exactly when it is a document
of the grammar whose fields can be written out.
-/

namespace EntityDiagram

-- Powers are those of the core library, whatever else is imported.
attribute [local instance (high)] instPowNat

open Value (lookup? lookup?_cons)

/-! ### Flat checks -/

theorem isKind_iff {value : Value} : isKind value = true ↔ Grammar.Kind value := by
  unfold isKind Grammar.Kind
  split
  · simp
  · next notText =>
      constructor
      · intro impossible
        simp at impossible
      · rintro ⟨kind, _, equal⟩
        exact (notText kind equal).elim

theorem checkKind_eq_nil_iff {place : Place} {value : Value} :
    checkKind place value = [] ↔ Grammar.Kind value := by
  simp [checkKind, ← isKind_iff]

theorem checkShape_eq_nil_iff {expected : List Shape} {place : Place} {value : Value} :
    checkShape expected place value = [] ↔ ∃ shape ∈ expected, shape.admits value = true := by
  simp [checkShape]

theorem admits_boolean_iff {value : Value} :
    Shape.boolean.admits value = true ↔ ∃ flag, value = .bool flag := by
  unfold Shape.admits
  split <;> simp_all

theorem admits_string_iff {value : Value} :
    Shape.string.admits value = true ↔ ∃ text, value = .text text := by
  unfold Shape.admits
  split <;> simp_all

theorem checkReference_eq_nil_iff {place : Place} {value : Value} :
    checkReference place value = [] ↔ ∃ name ≠ [], value = .text name := by
  have empty : Text.ofString "" = [] := rfl
  simp only [checkReference, List.append_eq_nil_iff, checkShape_eq_nil_iff, List.mem_singleton,
    exists_eq_left, admits_string_iff, ite_eq_right_iff, Value.isText_iff, empty]
  constructor
  · rintro ⟨⟨name, rfl⟩, notEmpty⟩
    refine ⟨name, ?_, rfl⟩
    rintro rfl
    simpa using notEmpty rfl
  · rintro ⟨name, nonempty, rfl⟩
    refine ⟨⟨name, rfl⟩, fun equal => (nonempty ?_).elim⟩
    simpa using equal

theorem checkKeys_eq_nil_iff {known : List Text} {place : Place} {entries : Mapping} :
    checkKeys known place entries = [] ↔
      ∀ entry ∈ entries, ∃ key ∈ known, entry.1 = .text key := by
  simp only [checkKeys, List.isEmpty_iff, ite_eq_left_iff, List.cons_ne_nil, imp_false,
    Classical.not_not, List.filterMap_eq_nil_iff]
  refine forall₂_congr fun entry _ => ?_
  split <;> simp_all

theorem checkKey_eq_nil_iff {check : Place → Value → List Violation} {place : Place}
    {entries : Mapping} {key : Text} :
    checkKey check place entries key = [] ↔
      ∀ value, lookup? entries key = some value →
        check (place ++ [.key (.text key)]) value = [] := by
  unfold checkKey
  cases lookup? entries key <;> simp

theorem isLongForm_iff {entries : Mapping} :
    isLongForm entries = true ↔ Grammar.HasForm entries := by
  simp [isLongForm, Grammar.HasForm, Option.isSome_iff_exists]

theorem checkLongForm_eq_nil_iff {place : Place} {entries : Mapping} :
    checkLongForm place entries = [] ↔ Grammar.HasForm entries := by
  simp [checkLongForm, ← isLongForm_iff]

/-! ### Fields, nested schemas and elements -/

/-- The nested schema of a long form is checked where its key is found. -/
theorem checkNestedSchema_eq (place : Place) (entries : Mapping) :
    checkNestedSchema place entries = checkKey checkFields place entries "schema" := by
  induction entries with
  | nil => simp [checkNestedSchema, checkKey]
  | cons entry entries ih =>
      by_cases same : entry.1 = .text "schema"
      · simp [checkNestedSchema, checkKey, lookup?_cons, same]
      · simpa [checkNestedSchema, checkKey, lookup?_cons, same] using ih

/-- The element of a long form is checked where its key is found. -/
theorem checkElement_eq (place : Place) (entries : Mapping) :
    checkElement place entries = checkKey checkElementValue place entries "of" := by
  induction entries with
  | nil => simp [checkElement, checkKey]
  | cons entry entries ih =>
      by_cases same : entry.1 = .text "of"
      · simp [checkElement, checkKey, lookup?_cons, same]
      · simpa [checkElement, checkKey, lookup?_cons, same] using ih

theorem checkFieldEntries_eq_nil_iff {place : Place} {entries : Mapping} :
    checkFieldEntries place entries = [] ↔
      ∀ entry ∈ entries, checkField (place ++ [.key entry.1]) entry.2 = [] := by
  induction entries with
  | nil => simp [checkFieldEntries]
  | cons entry entries ih => simp [checkFieldEntries, ih]

/-- On a value, the checks of a field, of a nested schema and of an element agree with the
grammar at every place. -/
structure ChecksAgree (value : Value) : Prop where
  field : ∀ place, checkField place value = [] ↔ Grammar.Field value
  fields : ∀ place, checkFields place value = [] ↔ Grammar.Fields value
  element : ∀ place, checkElementValue place value = [] ↔ Grammar.Element value

theorem longFormViolations_eq_nil_iff {entries : Mapping}
    (agree : ∀ entry ∈ entries, ChecksAgree entry.2) (place : Place) :
    longFormViolations place entries (checkNestedSchema place entries)
        (checkElement place entries) = [] ↔ Grammar.LongForm (.map entries) := by
  have schemaIff : checkNestedSchema place entries = [] ↔
      ∀ value, lookup? entries "schema" = some value → Grammar.Fields value := by
    rw [checkNestedSchema_eq, checkKey_eq_nil_iff]
    refine forall₂_congr fun value found => ?_
    exact (agree _ (Value.mem_of_lookup? found)).fields _
  have elementIff : checkElement place entries = [] ↔
      ∀ value, lookup? entries "of" = some value → Grammar.Element value := by
    rw [checkElement_eq, checkKey_eq_nil_iff]
    refine forall₂_congr fun value found => ?_
    exact (agree _ (Value.mem_of_lookup? found)).element _
  rw [Grammar.longForm_map_iff]
  simp only [longFormViolations, List.append_eq_nil_iff, checkLongForm_eq_nil_iff,
    checkKey_eq_nil_iff, checkKind_eq_nil_iff, checkShape_eq_nil_iff, List.mem_singleton,
    exists_eq_left, admits_boolean_iff, checkReference_eq_nil_iff, schemaIff, elementIff,
    checkKeys_eq_nil_iff, and_assoc]

theorem groupViolations_eq_nil_iff {entries : Mapping}
    (agree : ∀ entry ∈ entries, ChecksAgree entry.2) (place : Place) :
    groupViolations place entries (checkFieldEntries place entries) = [] ↔
      Grammar.Group (.map entries) := by
  have fieldsIff : checkFieldEntries place entries = [] ↔
      ∀ entry ∈ entries, Grammar.Field entry.2 := by
    rw [checkFieldEntries_eq_nil_iff]
    exact forall₂_congr fun entry member => (agree entry member).field _
  rw [Grammar.group_map_iff]
  simp [groupViolations, fieldsIff, ← isLongForm_iff]

theorem checksAgree_map {entries : Mapping}
    (agree : ∀ entry ∈ entries, ChecksAgree entry.2) : ChecksAgree (.map entries) where
  field place := by
    rw [Grammar.field_map_iff, ← longFormViolations_eq_nil_iff agree place,
      ← groupViolations_eq_nil_iff agree place]
    simp only [checkField, noForm, List.isEmpty_iff]
    split
    · next accepted => simp [accepted]
    · next refused =>
        split
        · next accepted => simp [accepted]
        · next refusedToo => simp [refused, refusedToo]
  fields place := by
    rw [Grammar.fields_map_iff, checkFields, checkFieldEntries_eq_nil_iff]
    exact forall₂_congr fun entry member => (agree entry member).field _
  element place := by
    rw [Grammar.element_map_iff, ← longFormViolations_eq_nil_iff agree place]
    simp only [checkElementValue, noForm, List.isEmpty_iff]
    split
    · next accepted => simp [accepted]
    · next refused => simp [refused]

theorem checksAgree_of_not_map {value : Value} (notMap : ∀ entries, value ≠ .map entries) :
    ChecksAgree value where
  field place := by
    rw [Grammar.field_iff_kind notMap, ← isKind_iff, checkField]
    · split <;> simp_all [noForm]
    · exact notMap
  fields place := by
    rw [checkFields, checkShape_eq_nil_iff]
    · constructor
      · rintro ⟨shape, member, admits⟩
        unfold Shape.admits at admits
        split at admits <;> simp_all [Grammar.Fields.null]
      · intro fields
        cases fields with
        | null => exact ⟨.null, by simp, rfl⟩
        | entries => exact (notMap _ rfl).elim
    · exact notMap
  element place := by
    rw [Grammar.element_iff_kind notMap, ← isKind_iff, checkElementValue]
    · split <;> simp_all [noForm]
    · exact notMap

/-- The induction goes along the entries of mappings; every other value has no fields. -/
theorem checksAgree (value : Value) : ChecksAgree value := by
  induction value using Value.induction_on_entries with
  | map entries agree => exact checksAgree_map agree
  | other value notMap => exact checksAgree_of_not_map notMap

/-! ### Models and documents -/

theorem checkTexts_eq_nil_iff {place : Place} {first : Nat} {items : List Value} :
    checkTexts place first items = [] ↔ ∀ item ∈ items, ∃ name, item = .text name := by
  induction items generalizing first with
  | nil => simp [checkTexts]
  | cons item items ih =>
      simp [checkTexts, ih, checkShape_eq_nil_iff, admits_string_iff]

theorem checkNames_eq_nil_iff {place : Place} {value : Value} :
    checkNames place value = [] ↔ Grammar.Names value := by
  unfold checkNames
  split
  · rw [checkTexts_eq_nil_iff]
    constructor
    · exact .list
    · intro names
      cases names with
      | list texts => exact texts
  · next notList =>
      rw [checkShape_eq_nil_iff]
      constructor
      · rintro ⟨shape, member, admits⟩
        unfold Shape.admits at admits
        split at admits <;> simp_all [Grammar.Names.null]
      · intro names
        cases names with
        | null => exact ⟨.null, by simp, rfl⟩
        | list => exact (notList _ rfl).elim

theorem checkModel_eq_nil_iff {place : Place} {value : Value} :
    checkModel place value = [] ↔ Grammar.Model value := by
  unfold checkModel
  split
  · simp only [List.append_eq_nil_iff, checkKey_eq_nil_iff, checkNames_eq_nil_iff,
      checkKeys_eq_nil_iff, (checksAgree _).fields]
    constructor
    · rintro ⟨⟨⟨fields, methods⟩, statics⟩, known⟩
      exact .entries known fields methods statics
    · intro model
      cases model with
      | entries known fields methods statics => exact ⟨⟨⟨fields, methods⟩, statics⟩, known⟩
  · next notMap =>
      rw [checkShape_eq_nil_iff]
      constructor
      · rintro ⟨shape, member, admits⟩
        unfold Shape.admits at admits
        split at admits <;> simp_all [Grammar.Model.null]
      · intro model
        cases model with
        | null => exact ⟨.null, by simp, rfl⟩
        | entries => exact (notMap _ rfl).elim

theorem checkModelEntries_eq_nil_iff {place : Place} {entries : Mapping} :
    checkModelEntries place entries = [] ↔ ∀ entry ∈ entries, Grammar.Model entry.2 := by
  induction entries with
  | nil => simp [checkModelEntries]
  | cons entry entries ih => simp [checkModelEntries, ih, checkModel_eq_nil_iff]

theorem checkModels_eq_nil_iff {place : Place} {value : Value} :
    checkModels place value = [] ↔ Grammar.Models value := by
  unfold checkModels
  split
  · simp only [List.append_eq_nil_iff, List.isEmpty_iff, ite_eq_right_iff, List.cons_ne_nil,
      imp_false, checkModelEntries_eq_nil_iff]
    constructor
    · rintro ⟨nonempty, models⟩
      exact .mk nonempty models
    · rintro ⟨nonempty, models⟩
      exact ⟨nonempty, models⟩
  · next notMap =>
      rw [checkShape_eq_nil_iff]
      constructor
      · rintro ⟨shape, member, admits⟩
        unfold Shape.admits at admits
        split at admits <;> simp_all
      · rintro ⟨⟩
        exact (notMap _ rfl).elim

/-- The checks of a whole document agree with the grammar. -/
theorem checkDocument_eq_nil_iff {document : Mapping} :
    checkDocument (.map document) = [] ↔ Grammar.Document document := by
  simp only [checkDocument, List.append_eq_nil_iff, checkKey_eq_nil_iff, checkModels_eq_nil_iff,
    Grammar.Document]
  cases lookup? document "models" <;> simp

theorem canReport_nil_iff {document : Value} :
    canReport document [] = true ↔
      ∀ field ∈ documentFields document, Grammar.Kind field ∨ field.isWritable = true := by
  simp [canReport, isKind_iff]

/-- A document of the grammar is accepted when the fields that are no kinds can be written out: each
of them is shown to be no kind before its other forms are tried. -/
theorem validate_eq_ok_iff {document : Mapping} :
    validate (.map document) = .ok () ↔
      Grammar.Document document ∧
        ∀ field ∈ documentFields (.map document), Grammar.Kind field ∨ field.isWritable = true := by
  rw [← checkDocument_eq_nil_iff, ← canReport_nil_iff]
  unfold validate
  cases checkDocument (.map document) with
  | nil => cases reportable : canReport (.map document) [] <;> simp [reportable]
  | cons violation violations =>
      simp only [List.isEmpty_cons, reduceCtorEq, false_and, iff_false]
      split <;> simp

/-! ### The forms of a field -/

/-- A field has one form only, and it is read as a descriptor unless that form is a group. -/
theorem form_unique {field : Value} (accepted : Grammar.Field field) :
    (Grammar.Kind field ∧ ¬ Grammar.LongForm field ∧ ¬ Grammar.Group field ∨
        ¬ Grammar.Kind field ∧ Grammar.LongForm field ∧ ¬ Grammar.Group field ∨
        ¬ Grammar.Kind field ∧ ¬ Grammar.LongForm field ∧ Grammar.Group field) ∧
      (isDescriptor field = true ↔ ¬ Grammar.Group field) := by
  cases accepted with
  | kind isKind =>
      obtain ⟨kind, member, rfl⟩ := isKind
      have notLongForm : ¬ Grammar.LongForm (.text kind) := by rintro ⟨⟩
      have notGroup : ¬ Grammar.Group (.text kind) := by rintro ⟨⟩
      refine ⟨.inl ⟨⟨kind, member, rfl⟩, notLongForm, notGroup⟩, ?_⟩
      simp [isDescriptor, notGroup]
  | longForm longForm =>
      cases longForm with
      | @mk entries form type required unique ref schema element known =>
          have notGroup : ¬ Grammar.Group (.map entries) := by
            rintro ⟨noForm, -⟩
            exact noForm form
          refine ⟨.inr (.inl ⟨Grammar.not_kind_map entries,
            .mk form type required unique ref schema element known, notGroup⟩), ?_⟩
          simp [isDescriptor_map_iff, form, notGroup]
  | group group =>
      cases group with
      | @mk entries noForm fields =>
          have notLongForm : ¬ Grammar.LongForm (.map entries) := by
            rintro ⟨form⟩
            exact noForm form
          have isGroup : Grammar.Group (.map entries) := .mk noForm fields
          refine ⟨.inr (.inr ⟨Grammar.not_kind_map entries, notLongForm, isGroup⟩), ?_⟩
          simp [isDescriptor_map_iff, noForm, isGroup]

/-- Documents are accepted exactly by the grammar, as far as their fields can be written out: a
document of the grammar with another field stops the check with a number of too many digits.
Wherever it stands, a value is accepted as a field exactly by the grammar of fields, and then it
has one form only, by whose keys it is read. -/
theorem acceptance_iff_grammar :
    (∀ document : Mapping,
      (validate (.map document) = .ok () ↔
        Grammar.Document document ∧
          ∀ field ∈ documentFields (.map document),
            Grammar.Kind field ∨ field.isWritable = true) ∧
      (Grammar.Document document → validate (.map document) ≠ .ok () →
        validate (.map document) = .error (.fault .tooManyDigits))) ∧
    (∀ place field, checkField place field = [] ↔ Grammar.Field field) ∧
    ∀ field, Grammar.Field field →
      (Grammar.Kind field ∧ ¬ Grammar.LongForm field ∧ ¬ Grammar.Group field ∨
        ¬ Grammar.Kind field ∧ Grammar.LongForm field ∧ ¬ Grammar.Group field ∨
        ¬ Grammar.Kind field ∧ ¬ Grammar.LongForm field ∧ Grammar.Group field) ∧
      (isDescriptor field = true ↔ ¬ Grammar.Group field) := by
  refine ⟨fun document => ⟨validate_eq_ok_iff, ?_⟩,
    fun place field => (checksAgree field).field place, fun field => form_unique⟩
  intro accepted refused
  rw [← checkDocument_eq_nil_iff] at accepted
  unfold validate at refused ⊢
  rw [accepted] at refused ⊢
  simp only [List.isEmpty_nil, if_true] at refused ⊢
  split
  · rfl
  · next canReport => simp [canReport] at refused

/-- A whole number with one digit more than can be written. -/
def unwritableKey : Scalar := .int (10 ^ Scalar.maxDigits)

/-- A document of the grammar with a group whose only key cannot be written. -/
def unwritableGroupDocument : Mapping :=
  [(.text "models", .map [(.text "A", .map [(.text "fields",
    .map [(.text "g", .map [(unwritableKey, .text "String")])])])])]

theorem unwritableKey_not_writable : unwritableKey.isWritable = false := by
  simp [unwritableKey, Scalar.isWritable, Int.natAbs_pow]

/-- Not every document of the grammar is accepted. -/
theorem unwritableGroupDocument_refused :
    Grammar.Document unwritableGroupDocument ∧
      validate (.map unwritableGroupDocument) ≠ .ok () := by
  constructor
  · exact checkDocument_eq_nil_iff.mp rfl
  · rw [ne_eq, validate_eq_ok_iff]
    rintro ⟨-, writable⟩
    rcases writable (.map [(unwritableKey, .text "String")]) (by exact List.mem_singleton.mpr rfl)
      with isKind | written
    · exact Grammar.not_kind_map _ isKind
    · simp [Value.isWritable, Value.entriesAreWritable, unwritableKey_not_writable] at written

end EntityDiagram
