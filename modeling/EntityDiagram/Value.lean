import EntityDiagram.Calendar
import EntityDiagram.Decimal.Layout
import EntityDiagram.Text.Quoted

/-!
# Document values

The data of a models document. Scalars can be keys; mappings keep their entries in the order of
the document. Two scalars are the same key when their identities agree: numbers are compared by
value, whatever their kind, moments with an offset by the instant that they name, and undefined
numbers by the place where they were written.
-/

namespace EntityDiagram

-- Powers are those of the core library, whatever else is imported.
attribute [local instance (high)] instPowNat

open Decimal (Double Layout)

structure Origin where
  line : Nat
  column : Nat
deriving DecidableEq, Repr, Inhabited

/-- A value without parts, which can be the key of a mapping. -/
inductive Scalar where
  | null
  | bool (b : Bool)
  | int (n : Int)
  | float (x : Double)
  /-- A number that is undefined; those of the plain spelling have no origin of their own. -/
  | undefined (origin : Option Origin)
  | text (s : Text)
  | date (d : Date)
  | moment (m : Moment)
  | bytes (bs : List UInt8)
deriving DecidableEq, Repr, Inhabited

inductive Value where
  | scalar (s : Scalar)
  | list (items : List Value)
  | pair (first second : Value)
  | set (items : List Scalar)
  | map (entries : List (Scalar × Value))
deriving Repr, Inhabited

/-- What makes two scalars the same key. Every finite number is a fraction in lowest terms. -/
inductive Identity where
  | null
  | number (numerator : Int) (denominator : Nat)
  | infinite (negative : Bool)
  | undefined (origin : Option Origin)
  | text (s : Text)
  | day (d : Date)
  | localMoment (time : Int)
  | instant (time : Int)
  | bytes (bs : List UInt8)
deriving DecidableEq, Repr

namespace Scalar

def identityOfDouble (x : Double) : Identity :=
  match x.magnitude with
  | .undefined => .undefined none
  | .infinite => .infinite x.isNegative
  | .finite significand exponent =>
      let numerator := significand * 2 ^ exponent.toNat
      let denominator := 2 ^ (-exponent).toNat
      let common := Nat.gcd numerator denominator
      let reduced : Int := (numerator / common : Nat)
      .number (if x.isNegative then -reduced else reduced) (denominator / common)

def identity : Scalar → Identity
  | null => .null
  | bool b => .number (if b then 1 else 0) 1
  | int n => .number n 1
  | float x => identityOfDouble x
  | undefined origin => .undefined origin
  | text s => .text s
  | date d => .day d
  | moment m => if m.offset.isSome then .instant m.instant else .localMoment m.instant
  | bytes bs => .bytes bs

def sameKey (x y : Scalar) : Bool :=
  x.identity == y.identity

/-- Numbers of documents have the fewest digits that identify them, positionally from `10 ^ -4`
to below `10 ^ 16`, and a whole number keeps its point. -/
def numberLayout : Layout := ⟨none, -4, 16, true⟩

def literal : Scalar → String
  | null => "None"
  | bool b => if b then "True" else "False"
  | int n => toString n
  | float x => numberLayout.render x
  | undefined _ => "nan"
  | text s => Text.quoted s
  | date d => d.literal
  | moment m => m.literal
  | bytes bs => Text.quotedBytes bs

/-- A whole number with more digits than this is not written. -/
def maxDigits : Nat := 4300

/-- Whether a scalar can be written: a whole number must not have too many digits. -/
def isWritable : Scalar → Bool
  | int n => n.natAbs < 10 ^ maxDigits
  | _ => true

/-- A scalar as it appears in names and paths: a text stands for itself. -/
def display : Scalar → Text
  | text s => s
  | date d => d.iso
  | moment m => m.iso " "
  | other => other.literal

/-- Scalars that count as true: all but null, false, zeros and empty texts. -/
def isTruthy : Scalar → Bool
  | null => false
  | bool b => b
  | int n => n != 0
  | float x => !x.isZero
  | undefined _ => true
  | text s => !s.isEmpty
  | date _ => true
  | moment _ => true
  | bytes bs => !bs.isEmpty

def typeName : Scalar → String
  | null => "NoneType"
  | bool _ => "bool"
  | int _ => "int"
  | float _ => "float"
  | undefined _ => "float"
  | text _ => "str"
  | date _ => "datetime.date"
  | moment _ => "datetime.datetime"
  | bytes _ => "bytes"

end Scalar

namespace Value

@[match_pattern] abbrev null : Value := .scalar .null
@[match_pattern] abbrev bool (b : Bool) : Value := .scalar (.bool b)
@[match_pattern] abbrev text (s : Text) : Value := .scalar (.text s)

def isText (value : Value) (s : Text) : Bool :=
  match value with
  | .text t => t == s
  | _ => false

def isNull : Value → Bool
  | .null => true
  | _ => false

/-- Values that count as true: empty collections do not. -/
def isTruthy : Value → Bool
  | scalar s => s.isTruthy
  | list items => !items.isEmpty
  | pair _ _ => true
  | set items => !items.isEmpty
  | map entries => !entries.isEmpty

def typeName : Value → String
  | scalar s => s.typeName
  | list _ => "list"
  | pair _ _ => "tuple"
  | set _ => "set"
  | map _ => "dict"

mutual

def literal : Value → String
  | scalar s => s.literal
  | list items => "[" ++ ", ".intercalate (literals items) ++ "]"
  | pair first second => "(" ++ first.literal ++ ", " ++ second.literal ++ ")"
  | set items =>
      if items.isEmpty then "set()"
      else "\x7b" ++ ", ".intercalate (items.map Scalar.literal) ++ "\x7d"
  | map entries => "\x7b" ++ ", ".intercalate (entryLiterals entries) ++ "\x7d"

def literals : List Value → List String
  | [] => []
  | item :: rest => item.literal :: literals rest

def entryLiterals : List (Scalar × Value) → List String
  | [] => []
  | (key, value) :: rest => (key.literal ++ ": " ++ value.literal) :: entryLiterals rest

end

mutual

/-- Whether every scalar in a value can be written. -/
def isWritable : Value → Bool
  | scalar s => s.isWritable
  | list items => areWritable items
  | pair first second => first.isWritable && second.isWritable
  | set items => items.all Scalar.isWritable
  | map entries => entriesAreWritable entries

/-- Whether every item of a list can be written. -/
def areWritable : List Value → Bool
  | [] => true
  | item :: rest => item.isWritable && areWritable rest

/-- Whether every entry of a mapping can be written. -/
def entriesAreWritable : List (Scalar × Value) → Bool
  | [] => true
  | (key, value) :: rest => key.isWritable && value.isWritable && entriesAreWritable rest

end

/-- A value as it appears in names and paths: a text stands for itself. -/
def display : Value → Text
  | scalar s => s.display
  | other => other.literal

def lookup? (entries : List (Scalar × Value)) (key : Text) : Option Value :=
  (entries.find? fun entry => entry.1 = .text key).map Prod.snd

end Value

/-- Entries of a mapping, each key once, in the order in which the keys came first. -/
abbrev Mapping := List (Scalar × Value)

namespace Mapping

def get? (entries : Mapping) (key : Scalar) : Option Value :=
  (entries.find? fun entry => entry.1.sameKey key).map Prod.snd

/-- Gives a key a value: a key that is there keeps its place and spelling, a new one goes last. -/
def insert (entries : Mapping) (key : Scalar) (value : Value) : Mapping :=
  match entries with
  | [] => [(key, value)]
  | entry :: rest =>
      if entry.1.sameKey key then (entry.1, value) :: rest
      else entry :: Mapping.insert rest key value

/-- The mapping made of pairs in order, a later pair replacing the value of the same key. -/
def ofPairs (pairs : List (Scalar × Value)) : Mapping :=
  pairs.foldl (fun entries pair => Mapping.insert entries pair.1 pair.2) []

end Mapping

end EntityDiagram
