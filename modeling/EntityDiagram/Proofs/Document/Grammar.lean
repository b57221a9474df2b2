import EntityDiagram.Proofs.Document.Entries
import EntityDiagram.Schema.Fields
import EntityDiagram.Schema.Validation

/-!
# The grammar of documents

The format of documents as a recursive grammar, stated without the checks.  A field is a kind, a
long form or a group; long forms nest schemas and elements, groups nest fields.  The checks of
fields, nested schemas and elements complain about nothing exactly on the values of the grammar,
wherever these stand in a document.
-/

namespace EntityDiagram

open Value (lookup? lookup?_cons)

namespace Grammar

/-- One of the kinds, by name. -/
def Kind (value : Value) : Prop :=
  ∃ kind ∈ allKinds, value = .text kind

/-- A mapping has a key that only long forms have. -/
def HasForm (entries : Mapping) : Prop :=
  (∃ value, lookup? entries "type" = some value) ∨ ∃ value, lookup? entries "schema" = some value

mutual

/-- A field in one of its three forms. -/
inductive Field : Value → Prop
  | kind {value : Value} (isKind : Kind value) : Field value
  | longForm {value : Value} (form : LongForm value) : Field value
  | group {value : Value} (form : Group value) : Field value

/-- A mapping with a `type` or a `schema`, and nothing but the keys of a long form. -/
inductive LongForm : Value → Prop
  | mk {entries : Mapping}
      (form : HasForm entries)
      (type : ∀ value, lookup? entries "type" = some value → Kind value)
      (required : ∀ value, lookup? entries "required" = some value → ∃ flag, value = .bool flag)
      (unique : ∀ value, lookup? entries "unique" = some value → ∃ flag, value = .bool flag)
      (ref : ∀ value, lookup? entries "ref" = some value → ∃ name ≠ [], value = .text name)
      (schema : ∀ value, lookup? entries "schema" = some value → Fields value)
      (element : ∀ value, lookup? entries "of" = some value → Element value)
      (known : ∀ entry ∈ entries, ∃ key ∈ longFormKeys, entry.1 = .text key) :
      LongForm (.map entries)

/-- A mapping of fields that has no key of a long form. -/
inductive Group : Value → Prop
  | mk {entries : Mapping} (noForm : ¬ HasForm entries)
      (fields : ∀ entry ∈ entries, Field entry.2) : Group (.map entries)

/-- A mapping of fields, or null. -/
inductive Fields : Value → Prop
  | null : Fields .null
  | entries {entries : Mapping} (fields : ∀ entry ∈ entries, Field entry.2) :
      Fields (.map entries)

/-- The element of an array: a kind or a long form. -/
inductive Element : Value → Prop
  | kind {value : Value} (isKind : Kind value) : Element value
  | longForm {value : Value} (form : LongForm value) : Element value

end

/-- A list of names, or null. -/
inductive Names : Value → Prop
  | null : Names .null
  | list {items : List Value} (texts : ∀ item ∈ items, ∃ name, item = .text name) :
      Names (.list items)

/-- The fields and the names of the methods of a model, or null. -/
inductive Model : Value → Prop
  | null : Model .null
  | entries {entries : Mapping}
      (known : ∀ entry ∈ entries, ∃ key ∈ modelKeys, entry.1 = .text key)
      (fields : ∀ value, lookup? entries "fields" = some value → Fields value)
      (methods : ∀ value, lookup? entries "methods" = some value → Names value)
      (statics : ∀ value, lookup? entries "statics" = some value → Names value) :
      Model (.map entries)

/-- The models by name, of which there is at least one. -/
inductive Models : Value → Prop
  | mk {entries : Mapping} (nonempty : entries ≠ [])
      (models : ∀ entry ∈ entries, Model entry.2) : Models (.map entries)

/-- A document has models; its other keys are free. -/
def Document (document : Mapping) : Prop :=
  ∃ models, lookup? document "models" = some models ∧ Models models

theorem longForm_map_iff {entries : Mapping} :
    LongForm (.map entries) ↔
      HasForm entries ∧
      (∀ value, lookup? entries "type" = some value → Kind value) ∧
      (∀ value, lookup? entries "required" = some value → ∃ flag, value = .bool flag) ∧
      (∀ value, lookup? entries "unique" = some value → ∃ flag, value = .bool flag) ∧
      (∀ value, lookup? entries "ref" = some value → ∃ name ≠ [], value = .text name) ∧
      (∀ value, lookup? entries "schema" = some value → Fields value) ∧
      (∀ value, lookup? entries "of" = some value → Element value) ∧
      ∀ entry ∈ entries, ∃ key ∈ longFormKeys, entry.1 = .text key := by
  constructor
  · rintro ⟨form, type, required, unique, ref, schema, element, known⟩
    exact ⟨form, type, required, unique, ref, schema, element, known⟩
  · rintro ⟨form, type, required, unique, ref, schema, element, known⟩
    exact ⟨form, type, required, unique, ref, schema, element, known⟩

theorem group_map_iff {entries : Mapping} :
    Group (.map entries) ↔ ¬ HasForm entries ∧ ∀ entry ∈ entries, Field entry.2 := by
  constructor
  · rintro ⟨noForm, fields⟩
    exact ⟨noForm, fields⟩
  · rintro ⟨noForm, fields⟩
    exact ⟨noForm, fields⟩

theorem not_kind_map (entries : Mapping) : ¬ Kind (.map entries) := by
  rintro ⟨kind, _, equal⟩
  cases equal

/-- A mapping is a field as a long form or as a group. -/
theorem field_map_iff {entries : Mapping} :
    Field (.map entries) ↔ LongForm (.map entries) ∨ Group (.map entries) := by
  constructor
  · intro field
    cases field with
    | kind isKind => exact (not_kind_map entries isKind).elim
    | longForm form => exact Or.inl form
    | group form => exact Or.inr form
  · rintro (form | form)
    · exact .longForm form
    · exact .group form

/-- Any other value is a field only as a kind. -/
theorem field_iff_kind {value : Value} (notMap : ∀ entries, value ≠ .map entries) :
    Field value ↔ Kind value := by
  constructor
  · intro field
    cases field with
    | kind isKind => exact isKind
    | longForm form => cases form; exact (notMap _ rfl).elim
    | group form => cases form; exact (notMap _ rfl).elim
  · exact .kind

theorem element_map_iff {entries : Mapping} :
    Element (.map entries) ↔ LongForm (.map entries) := by
  constructor
  · intro element
    cases element with
    | kind isKind => exact (not_kind_map entries isKind).elim
    | longForm form => exact form
  · exact .longForm

theorem element_iff_kind {value : Value} (notMap : ∀ entries, value ≠ .map entries) :
    Element value ↔ Kind value := by
  constructor
  · intro element
    cases element with
    | kind isKind => exact isKind
    | longForm form => cases form; exact (notMap _ rfl).elim
  · exact .kind

theorem fields_map_iff {entries : Mapping} :
    Fields (.map entries) ↔ ∀ entry ∈ entries, Field entry.2 := by
  constructor
  · intro accepted
    cases accepted with
    | entries fields => exact fields
  · exact .entries

end Grammar

/-- A mapping is read as a descriptor by the keys that make it a long form. -/
theorem isDescriptor_map_iff {entries : Mapping} :
    isDescriptor (.map entries) = true ↔ Grammar.HasForm entries := by
  simp [isDescriptor, Grammar.HasForm, Option.isSome_iff_exists]

end EntityDiagram
