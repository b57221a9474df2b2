import EntityDiagram.Text.Utf8
import EntityDiagram.Value

/-!
# Faults of data

Data that was not validated can have a value of the wrong shape in any place, and even a valid
document can hold a number that is too large to be written or a text that no file can hold. Each
way in which that stops the work is one fault.
-/

namespace EntityDiagram

inductive Fault where
  /-- Fields were to be listed, and the value is no mapping. -/
  | noEntries (typeName : String)
  /-- A key was to be looked up, and the value is no mapping. -/
  | noLookup (typeName : String)
  /-- A key was to be found, and the value holds nothing. -/
  | noMembers (typeName : String)
  /-- A list stands where a mapping with a nested schema was expected. -/
  | namedIndex (typeName : String)
  /-- Names were to be listed, and the value has no items. -/
  | notIterable (typeName : String)
  /-- A path has no descriptor. -/
  | missingDescriptor
  /-- A path has no segments. -/
  | emptyPath
  /-- A key is not there. -/
  | missingKey (key : Scalar)
  | calendar (fault : CalendarFault)
  /-- A key was to be found that cannot be a key. -/
  | notKey (typeName : String)
  | tooManyDigits
  | beyondFloat
  | surrogates (fault : Text.SurrogateFault)
  /-- A text stands where a number is to be laid out. -/
  | textForNumber
  /-- A value stands where a number is to be laid out. -/
  | valueForNumber (typeName : String)
  /-- Lines were to be listed, and the value has no items. -/
  | notJoinable
  /-- An item of a list of lines is no text. -/
  | notLine (index : Nat) (typeName : String)
deriving DecidableEq, Repr

def Fault.message : Fault → String
  | noEntries typeName => "'" ++ typeName ++ "' object has no attribute 'items'"
  | noLookup typeName => "'" ++ typeName ++ "' object has no attribute 'get'"
  | noMembers typeName => "argument of type '" ++ typeName ++ "' is not iterable"
  | namedIndex typeName => typeName ++ " indices must be integers or slices, not str"
  | notIterable typeName => "'" ++ typeName ++ "' object is not iterable"
  | missingDescriptor => "'NoneType' object has no attribute 'kind'"
  | emptyPath => "list index out of range"
  | missingKey key => key.literal
  | calendar fault => fault.message
  | notKey typeName => "unhashable type: '" ++ typeName ++ "'"
  | tooManyDigits =>
      "Exceeds the limit (" ++ toString Scalar.maxDigits ++ " digits) for integer string " ++
        "conversion; use sys.set_int_max_str_digits() to increase the limit"
  | beyondFloat => "int too large to convert to float"
  | surrogates fault => fault.message
  | textForNumber => "Unknown format code 'g' for object of type 'str'"
  | notJoinable => "can only join an iterable"
  | notLine index typeName =>
      "sequence item " ++ toString index ++ ": expected str instance, " ++ typeName ++ " found"
  | valueForNumber typeName => "unsupported format string passed to " ++ typeName ++ ".__format__"

/-- The items that a value lists: those of a list, the characters of a text, the keys of a
mapping. -/
def Value.items : Value → Except Fault (List Value)
  | .list items => .ok items
  | .pair first second => .ok [first, second]
  | .set items => .ok (items.map Value.scalar)
  | .map entries => .ok (entries.map fun entry => .scalar entry.1)
  | .text s => .ok (s.map fun c => .text [c])
  | .scalar s => .error (.notIterable s.typeName)

/-- Items as lines; `index` is the place of the first one. -/
def linesFrom (index : Nat) : List Value → Except Fault (List Text)
  | [] => .ok []
  | .text line :: rest => do return line :: (← linesFrom (index + 1) rest)
  | other :: _ => .error (.notLine index other.typeName)

def Value.lines (value : Value) : Except Fault (List Text) :=
  match value.items with
  | .ok items => linesFrom 0 items
  | .error _ => .error .notJoinable

/-- A value as the key of a mapping; only scalars can be keys. -/
def Value.asKey : Value → Except Fault Scalar
  | .scalar s => .ok s
  | other => .error (.notKey other.typeName)

/-- The text of a scalar in names and paths, if the scalar can be written. -/
def Scalar.written (scalar : Scalar) : Except Fault Text :=
  if scalar.isWritable then .ok scalar.display else .error .tooManyDigits

end EntityDiagram
