import EntityDiagram.Schema.Kind

/-!
# Violations of the document format

A violation names a place in the document and what is wrong there. Where a value may take several
forms and takes none of them, the complaints about each form are its context.
-/

namespace EntityDiagram

inductive Step where
  | key (k : Scalar)
  | index (n : Nat)
deriving DecidableEq, Repr

def Step.display : Step → Text
  | key k => k.display
  | index n => toString n

/-- A place in a document, as steps from its root. -/
abbrev Place := List Step

def Place.display (place : Place) : Text :=
  "$" ++ Text.join (place.map fun step => "/" ++ step.display)

inductive Shape where
  | object
  | array
  | string
  | boolean
  | null
deriving DecidableEq, Repr

def Shape.name : Shape → String
  | object => "object"
  | array => "array"
  | string => "string"
  | boolean => "boolean"
  | null => "null"

def Shape.admits : Shape → Value → Bool
  | object, .map _ => true
  | array, .list _ => true
  | string, .text _ => true
  | boolean, .bool _ => true
  | null, .null => true
  | _, _ => false

inductive Cause where
  | wrongShape (value : Value) (expected : List Shape)
  | notKind (value : Value)
  | noForm (value : Value)
  /-- A group has a key that only long forms have. -/
  | notGroup (value : Value)
  | missing (key : Text)
  | empty (value : Value)
  | unexpected (keys : List Scalar)
deriving Repr

def quotedList (texts : List Text) : String :=
  ", ".intercalate (texts.map Text.quoted)

def sortedKeys (keys : List Scalar) : List Scalar :=
  keys.mergeSort fun x y => x.display.precedes y.display

def Cause.message : Cause → String
  | wrongShape value expected =>
      value.literal ++ " is not of type " ++ quotedList (expected.map fun shape => shape.name)
  | notKind value => value.literal ++ " is not one of [" ++ quotedList allKinds ++ "]"
  | noForm value => value.literal ++ " is not valid under any of the given schemas"
  | notGroup value =>
      value.literal ++ " should not be valid under " ++
        "\x7b'anyOf': [\x7b'required': ['type']\x7d, \x7b'required': ['schema']\x7d]\x7d"
  | missing key => Text.quoted key ++ " is a required property"
  | empty value => value.literal ++ " should be non-empty"
  | unexpected keys =>
      "Additional properties are not allowed (" ++
        ", ".intercalate ((sortedKeys keys).map Scalar.literal) ++
        (if keys.length == 1 then " was" else " were") ++ " unexpected)"

structure Complaint where
  place : Place
  cause : Cause
deriving Repr

structure Violation where
  complaint : Complaint
  context : List Complaint
deriving Repr

/-- A violation without context. -/
def violationAt (place : Place) (cause : Cause) : Violation :=
  ⟨⟨place, cause⟩, []⟩

def Violation.lines (violation : Violation) : List Text :=
  ("- " ++ violation.complaint.place.display ++ ": " ++ violation.complaint.cause.message) ::
    violation.context.map fun complaint =>
      "    * " ++ complaint.place.display ++ ": " ++ complaint.cause.message

/-- Whether a list of texts does not come after another in the order of its items. -/
def textsLE : List Text → List Text → Bool
  | [], _ => true
  | _ :: _, [] => false
  | x :: xs, y :: ys => if x = y then textsLE xs ys else x.precedes y

/-- Violations in the order of their places; those of one place stay in order. -/
def sortViolations (violations : List Violation) : List Violation :=
  violations.mergeSort fun x y =>
    textsLE (x.complaint.place.map Step.display) (y.complaint.place.map Step.display)

def violationReport (violations : List Violation) : Text :=
  "Schema validation failed:\n" ++
    Text.joinWith "\n" ((sortViolations violations).flatMap Violation.lines)

/-! ### Violations that cannot be written -/

/-- Whether every key in a place can be written. -/
def Place.isWritable (place : Place) : Bool :=
  place.all fun step =>
    match step with
    | .key k => k.isWritable
    | .index _ => true

def Cause.isWritable : Cause → Bool
  | wrongShape value _ => value.isWritable
  | notKind value => value.isWritable
  | noForm value => value.isWritable
  | notGroup value => value.isWritable
  | missing _ => true
  | empty value => value.isWritable
  | unexpected keys => keys.all Scalar.isWritable

def Complaint.isWritable (complaint : Complaint) : Bool :=
  complaint.place.isWritable && complaint.cause.isWritable

def Violation.isWritable (violation : Violation) : Bool :=
  violation.complaint.isWritable && violation.context.all Complaint.isWritable

end EntityDiagram
