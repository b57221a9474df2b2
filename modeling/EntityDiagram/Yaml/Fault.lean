import EntityDiagram.Calendar
import EntityDiagram.Text.Quoted
import EntityDiagram.Text.Utf8
import EntityDiagram.Yaml.Problem

/-!
# Why a YAML text has no value

The text may be malformed, a scalar may have no value under its tag, or the file may hold no text.
-/

namespace EntityDiagram.Yaml

/-- Why the text of a scalar has no value under its tag. -/
inductive ScalarFault where
  | emptyNumber
  | badInteger (base : Nat) (text : Text)
  | tooManyDigits (count : Nat)
  | badNumber (text : Text)
  /-- A part of a number to the base sixty has a place that is beyond floating-point numbers. -/
  | beyondFloat
  | badTruth (text : Text)
  | badTimestamp
  /-- A timestamp that is a mapping. -/
  | notText
  | calendar (fault : CalendarFault)
  /-- An escape names no code point; the number may even be too large for a machine word. -/
  | codePoint (code : Nat)
deriving DecidableEq, Repr

/-- A literal is cut to this length in the message about a whole number. -/
def shownLength : Nat := 200

def ScalarFault.message : ScalarFault → String
  | emptyNumber => "string index out of range"
  | badInteger base text =>
      "invalid literal for int() with base " ++ toString base ++ ": " ++
        String.ofList ((Text.quoted text).toList.take shownLength)
  | tooManyDigits count =>
      "Exceeds the limit (4300 digits) for integer string conversion: value has " ++
        toString count ++ " digits; use sys.set_int_max_str_digits() to increase the limit"
  | badNumber text => "could not convert string to float: " ++ Text.quoted text
  | beyondFloat => "int too large to convert to float"
  | badTruth text => Text.quoted text
  | badTimestamp => "'NoneType' object has no attribute 'groupdict'"
  | notText => "expected string or bytes-like object, got 'list'"
  | calendar fault => fault.message
  | codePoint code =>
      if 0x80000000 ≤ code then "Python int too large to convert to C int"
      else "chr() arg not in range(0x110000)"

/-- Why a text has no value. -/
inductive LoadFault where
  | problem (problem : Problem)
  | scalar (fault : ScalarFault)
  | undecodable (fault : Text.Utf8Fault)
  /-- An alias stands inside the node of its own anchor, so the document holds itself. -/
  | cyclic
deriving DecidableEq, Repr

def LoadFault.at (cause : ProblemCause) (line column : Nat) : LoadFault :=
  .problem ⟨cause, line, column⟩

end EntityDiagram.Yaml
