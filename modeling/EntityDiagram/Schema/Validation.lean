import EntityDiagram.Schema.Violation

/-!
# Checking a document

A document holds models by name. A model has fields and the names of its methods; a field is a
kind, a long form or a group of fields. Complaints come in the order of the format's rules, and
under one rule in the order of the document.
-/

namespace EntityDiagram

open Value (lookup?)

def isKind : Value → Bool
  | .text kind => allKinds.contains kind
  | _ => false

def longFormKeys : List Text := ["type", "required", "unique", "ref", "schema", "of"]

def modelKeys : List Text := ["fields", "methods", "statics"]

/-- Complains about a value of a shape that is not expected. -/
def checkShape (expected : List Shape) (place : Place) (value : Value) : List Violation :=
  if expected.any (·.admits value) then []
  else [violationAt place (.wrongShape value expected)]

/-- Complains about a value that is no kind. -/
def checkKind (place : Place) (value : Value) : List Violation :=
  if isKind value then [] else [violationAt place (.notKind value)]

/-- Complains about keys that are not known. -/
def checkKeys (known : List Text) (place : Place) (entries : Mapping) : List Violation :=
  let extra := entries.filterMap fun entry =>
    match entry.1 with
    | .text key => if known.contains key then none else some entry.1
    | _ => some entry.1
  if extra.isEmpty then [] else [violationAt place (.unexpected extra)]

/-- Checks the value of a key, if it is there. -/
def checkKey (check : Place → Value → List Violation) (place : Place) (entries : Mapping)
    (key : Text) : List Violation :=
  match lookup? entries key with
  | none => []
  | some value => check (place ++ [.key (.text key)]) value

/-- Whether a mapping has a key that makes it a long form. -/
def isLongForm (entries : Mapping) : Bool :=
  (lookup? entries "type").isSome || (lookup? entries "schema").isSome

/-- A long form needs a `type` or a `schema`. -/
def checkLongForm (place : Place) (entries : Mapping) : List Violation :=
  if isLongForm entries then []
  else [⟨⟨place, .noForm (.map entries)⟩,
    [⟨place, .missing "type"⟩, ⟨place, .missing "schema"⟩]⟩]

/-- A reference is a text that is not empty. -/
def checkReference (place : Place) (value : Value) : List Violation :=
  checkShape [.string] place value ++
    if value.isText "" then [violationAt place (.empty value)] else []

/-- A field that takes none of its forms, with the complaints about each form. -/
def noForm (place : Place) (value : Value) (violations : List Violation) : List Violation :=
  [⟨⟨place, .noForm value⟩, violations.map Violation.complaint⟩]

def longFormViolations (place : Place) (entries : Mapping) (nested element : List Violation) :
    List Violation :=
  checkLongForm place entries ++
    checkKey checkKind place entries "type" ++
    checkKey (checkShape [.boolean]) place entries "required" ++
    checkKey (checkShape [.boolean]) place entries "unique" ++
    checkKey checkReference place entries "ref" ++
    nested ++ element ++
    checkKeys longFormKeys place entries

def groupViolations (place : Place) (entries : Mapping) (fields : List Violation) :
    List Violation :=
  (if isLongForm entries then [violationAt place (.notGroup (.map entries))] else []) ++ fields

mutual

/-- Checks a field: a kind, a long form or a group. -/
def checkField (place : Place) : Value → List Violation
  | .map entries =>
      let asLongForm := longFormViolations place entries (checkNestedSchema place entries)
        (checkElement place entries)
      if asLongForm.isEmpty then []
      else
        let asGroup := groupViolations place entries (checkFieldEntries place entries)
        if asGroup.isEmpty then []
        else noForm place (.map entries) (checkKind place (.map entries) ++ asLongForm ++ asGroup)
  | value =>
      if isKind value then []
      else
        noForm place value
          (checkKind place value ++ checkShape [.object] place value ++
            checkShape [.object] place value ++ [violationAt place (.notGroup value)])

def checkNestedSchema (place : Place) : List (Scalar × Value) → List Violation
  | [] => []
  | (key, value) :: rest =>
      if key = .text "schema" then checkFields (place ++ [.key key]) value
      else checkNestedSchema place rest

def checkElement (place : Place) : List (Scalar × Value) → List Violation
  | [] => []
  | (key, value) :: rest =>
      if key = .text "of" then checkElementValue (place ++ [.key key]) value
      else checkElement place rest

/-- Checks the element of an array: a kind or a long form. -/
def checkElementValue (place : Place) : Value → List Violation
  | .map entries =>
      let asLongForm := longFormViolations place entries (checkNestedSchema place entries)
        (checkElement place entries)
      if asLongForm.isEmpty then []
      else noForm place (.map entries) (checkKind place (.map entries) ++ asLongForm)
  | value =>
      if isKind value then []
      else noForm place value (checkKind place value ++ checkShape [.object] place value)

/-- Checks a mapping of fields, which may be null. -/
def checkFields (place : Place) : Value → List Violation
  | .map entries => checkFieldEntries place entries
  | value => checkShape [.object, .null] place value

def checkFieldEntries (place : Place) : List (Scalar × Value) → List Violation
  | [] => []
  | (key, value) :: rest =>
      checkField (place ++ [.key key]) value ++ checkFieldEntries place rest

end

/-- Checks that the items of a list are texts, with the number of the first of them. -/
def checkTexts (place : Place) (first : Nat) : List Value → List Violation
  | [] => []
  | item :: rest =>
      checkShape [.string] (place ++ [.index first]) item ++ checkTexts place (first + 1) rest

/-- Checks a list of method names, which may be null. -/
def checkNames (place : Place) : Value → List Violation
  | .list items => checkTexts place 0 items
  | value => checkShape [.array, .null] place value

/-- Checks a model, which may be null. -/
def checkModel (place : Place) : Value → List Violation
  | .map entries =>
      checkKey checkFields place entries "fields" ++
        checkKey checkNames place entries "methods" ++
        checkKey checkNames place entries "statics" ++
        checkKeys modelKeys place entries
  | value => checkShape [.object, .null] place value

def checkModelEntries (place : Place) : List (Scalar × Value) → List Violation
  | [] => []
  | (key, value) :: rest =>
      checkModel (place ++ [.key key]) value ++ checkModelEntries place rest

def checkModels (place : Place) : Value → List Violation
  | .map entries =>
      (if entries.isEmpty then [violationAt place (.empty (.map entries))] else []) ++
        checkModelEntries place entries
  | value => checkShape [.object] place value

def checkDocument : Value → List Violation
  | .map entries =>
      (if (lookup? entries "models").isSome then [] else [violationAt [] (.missing "models")]) ++
        checkKey checkModels [] entries "models"
  | value => checkShape [.object] [] value

def fieldValues : Value → List Value
  | .map entries =>
      match lookup? entries "fields" with
      | some (.map fields) => fields.map Prod.snd
      | _ => []
  | _ => []

/-- The values of the fields of every model of a document. -/
def documentFields : Value → List Value
  | .map entries =>
      match lookup? entries "models" with
      | some (.map models) => models.flatMap fun model => fieldValues model.2
      | _ => []
  | _ => []

/-- Whether the check of a document can be carried out: every field that is no kind is written out
on the way, and so are the violations. -/
def canReport (document : Value) (violations : List Violation) : Bool :=
  (documentFields document).all (fun field => isKind field || field.isWritable) &&
    violations.all Violation.isWritable

end EntityDiagram
