import EntityDiagram.Value

/-!
# Kinds of fields

The kinds that a field can be declared with. Scalar kinds are columns; every other kind is a
container with a table of its own.
-/

namespace EntityDiagram

def scalarKinds : List Text :=
  ["String", "Boolean", "Date", "ObjectID", "Number"]

/-- Every kind, in the order in which messages list them. -/
def allKinds : List Text :=
  ["String", "Number", "Date", "Boolean", "ObjectID", "Buffer", "Decimal128", "UUID", "BigInt",
    "Map", "Mixed", "Array", "Embedded"]

def arrayKind : Text := "Array"

def embeddedKind : Text := "Embedded"

/-- The kind shown for the element of an array that does not name one. -/
def unknownKind : Text := "Unknown"

def isScalarKind : Value → Bool
  | .text kind => scalarKinds.contains kind
  | _ => false

end EntityDiagram
