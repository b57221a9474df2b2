import EntityDiagram.Fault
import EntityDiagram.Schema.Descriptor

/-!
# Reading the fields of a model

A field is written as a bare kind, as a long form with a `type` or a `schema`, or as a group of
further fields. Groups are flattened: their fields get the group's key and a point in front of
their path. The schemas inside descriptors start from empty paths again.
-/

namespace EntityDiagram

open Value (lookup?)

/-- A field is declared by its kind or by a mapping with a `type` or a `schema`; any other value
is a group. -/
def isDescriptor : Value → Bool
  | .text _ => true
  | .map entries => (lookup? entries "type").isSome || (lookup? entries "schema").isSome
  | _ => false

/-- Why a value that is neither a text nor a mapping cannot be read as a long form. -/
def longFormFault (value : Value) : Fault :=
  let look (items : List Value) :=
    if items.any (·.isText "schema") then Fault.namedIndex value.typeName
    else .noLookup value.typeName
  match value with
  | .list items => look items
  | .pair first second => look [first, second]
  | .scalar s => .noMembers s.typeName
  | _ => .noLookup value.typeName

/-- The kind of a long form: the declared one, else the default, else that of a document. -/
def longFormKind (defaultKind : Value) (entries : Mapping) : Value :=
  let declared := (lookup? entries "type").getD .null
  if declared.isTruthy then declared
  else if defaultKind.isTruthy then defaultKind
  else .text embeddedKind

def longFormOptions (entries : Mapping) : Options where
  required := ((lookup? entries "required").map Value.isTruthy).getD false
  unique := ((lookup? entries "unique").map Value.isTruthy).getD false
  ref := (lookup? entries "ref").getD .null

mutual

/-- Reads a field that is declared by a kind or a long form. -/
def readDescriptor (defaultKind : Value) : Value → Except Fault Descriptor
  | .text kind => .ok (Descriptor.ofKind (.text kind))
  | .map entries => do
      let schema ← readSchema entries
      let kind := longFormKind defaultKind entries
      let element ← if kind.isText arrayKind then readElement entries else .ok .missing
      return .typed kind (longFormOptions entries) schema element
  | other => .error (longFormFault other)

def readSchema : List (Scalar × Value) → Except Fault (Option Paths)
  | [] => .ok none
  | (key, value) :: rest =>
      if key = .text "schema" then
        if value.isTruthy then some <$> flattenFields "" value else .ok (some [])
      else readSchema rest

def readElement : List (Scalar × Value) → Except Fault Descriptor
  | [] => .ok .missing
  | (key, value) :: rest =>
      if key = .text "of" then
        if value.isNull then .ok .missing else readDescriptor (.text embeddedKind) value
      else readElement rest

def flattenFields (front : Text) : Value → Except Fault Paths
  | .map entries => flattenEntries front entries
  | other => .error (.noEntries other.typeName)

def flattenEntries (front : Text) : List (Scalar × Value) → Except Fault Paths
  | [] => .ok []
  | (key, value) :: rest => do
      let path := front ++ (← key.written)
      let here ←
        if isDescriptor value then
          (fun descriptor => [(path, descriptor)]) <$> readDescriptor .null value
        else if value.isTruthy then flattenFields (path ++ ".") value
        else .ok []
      let more ← flattenEntries front rest
      return here ++ more

end

end EntityDiagram
