import EntityDiagram.Text
import EntityDiagram.Text.Hex

/-!
# UTF-8

Bytes are read as the shortest well-formed sequences. Where none stands, the longest prefix of one
is a single malformed span: strict reading stops there and says why, lenient reading puts one
replacement character in its place. Every text without surrogates has bytes.
-/

namespace EntityDiagram.Text

-- Powers are those of the core library, whatever else is imported.
attribute [local instance (high)] instPowNat

/-- Why a span of bytes is no character. -/
inductive Utf8Reason where
  | invalidStart
  | invalidContinuation
  | unexpectedEnd
deriving DecidableEq, Repr

/-- Malformed bytes: where they start, what they are and why they are refused. -/
structure Utf8Fault where
  position : Nat
  first : UInt8
  length : Nat
  reason : Utf8Reason
deriving DecidableEq, Repr

def Utf8Reason.wording : Utf8Reason → String
  | .invalidStart => "invalid start byte"
  | .invalidContinuation => "invalid continuation byte"
  | .unexpectedEnd => "unexpected end of data"

/-- The message of a fault names a single byte, or the positions of several. -/
def Utf8Fault.message (fault : Utf8Fault) : String :=
  let place :=
    if fault.length == 1 then
      "byte 0x" ++ String.ofList (hexPadded 2 fault.first.toNat) ++
        " in position " ++ toString fault.position
    else
      "bytes in position " ++ toString fault.position ++ "-" ++
        toString (fault.position + fault.length - 1)
  "'utf-8' codec can't decode " ++ place ++ ": " ++ fault.reason.wording

/-- How many bytes follow a start byte, and the range that the first of them lies in. -/
def continuation? (start : UInt8) : Option (Nat × UInt8 × UInt8) :=
  if start < 0x80 then some (0, 0x80, 0xBF)
  else if start < 0xC2 then none
  else if start < 0xE0 then some (1, 0x80, 0xBF)
  else if start == 0xE0 then some (2, 0xA0, 0xBF)
  else if start == 0xED then some (2, 0x80, 0x9F)
  else if start < 0xF0 then some (2, 0x80, 0xBF)
  else if start == 0xF0 then some (3, 0x90, 0xBF)
  else if start < 0xF4 then some (3, 0x80, 0xBF)
  else if start == 0xF4 then some (3, 0x80, 0x8F)
  else none

/-- One step of reading: a character or a malformed span, with the number of bytes it takes. -/
inductive Utf8Step where
  | char (c : Char) (length : Nat)
  | malformed (reason : Utf8Reason) (length : Nat)

def continueSequence (low high : UInt8) (code taken : Nat) : Nat → List UInt8 → Utf8Step
  | 0, _ => .char (Char.ofNat code) taken
  | _ + 1, [] => .malformed .unexpectedEnd taken
  | missing + 1, byte :: rest =>
      if low ≤ byte && byte ≤ high then
        continueSequence 0x80 0xBF (code * 64 + byte.toNat % 64) (taken + 1) missing rest
      else .malformed .invalidContinuation taken

def utf8Step (start : UInt8) (rest : List UInt8) : Utf8Step :=
  match continuation? start with
  | none => .malformed .invalidStart 1
  | some (0, _, _) => .char (Char.ofNat start.toNat) 1
  | some (count, low, high) =>
      continueSequence low high (start.toNat % 2 ^ (6 - count)) 1 count rest

/-- What strict reading gives: characters, and the bytes from the first malformed span on. -/
structure Utf8Reading where
  chars : List Char
  fault : Option Utf8Fault
  rest : List UInt8

/-- Reads bytes up to the first malformed span. The characters read so far are kept in reverse;
`skip` bytes of the input belong to the last of them. -/
def utf8ReadFrom (done : List Char) (position : Nat) : (skip : Nat) → List UInt8 → Utf8Reading
  | _, [] => ⟨done.reverse, none, []⟩
  | skip + 1, _ :: rest => utf8ReadFrom done (position + 1) skip rest
  | 0, byte :: rest =>
      match utf8Step byte rest with
      | .char c length => utf8ReadFrom (c :: done) (position + 1) (length - 1) rest
      | .malformed reason length =>
          ⟨done.reverse, some ⟨position, byte, length, reason⟩, byte :: rest⟩

def utf8Read (bytes : List UInt8) : Utf8Reading := utf8ReadFrom [] 0 0 bytes

def utf8Decode (bytes : List UInt8) : Except Utf8Fault (List Char) :=
  let reading := utf8Read bytes
  match reading.fault with
  | none => .ok reading.chars
  | some fault => .error fault

/-- Lenient reading behind characters that are kept in reverse. -/
def utf8DecodeLossyFrom (done : List Char) : (skip : Nat) → List UInt8 → List Char
  | _, [] => done.reverse
  | skip + 1, _ :: rest => utf8DecodeLossyFrom done skip rest
  | 0, byte :: rest =>
      match utf8Step byte rest with
      | .char c length => utf8DecodeLossyFrom (c :: done) (length - 1) rest
      | .malformed _ length => utf8DecodeLossyFrom ('\uFFFD' :: done) (length - 1) rest

/-- Lenient reading: each malformed span becomes one replacement character. -/
def utf8DecodeLossy (bytes : List UInt8) : List Char := utf8DecodeLossyFrom [] 0 bytes

/-! ### Writing -/

/-- Surrogates in a text, which have no bytes: where the first of them stands, its number, and how
many stand together. -/
structure SurrogateFault where
  position : Nat
  first : Nat
  length : Nat
deriving DecidableEq, Repr

/-- The message of a fault names a single surrogate, or the positions of several. -/
def SurrogateFault.message (fault : SurrogateFault) : String :=
  let place :=
    if fault.length == 1 then
      "character '" ++ String.ofList ('\\' :: 'u' :: hexPadded 4 fault.first) ++
        "' in position " ++ toString fault.position
    else
      "characters in position " ++ toString fault.position ++ "-" ++
        toString (fault.position + fault.length - 1)
  "'utf-8' codec can't encode " ++ place ++ ": surrogates not allowed"

/-- The first code point of a text that cannot be written, with the surrogates behind it. -/
def surrogateFault? (isWritten : CodePoint → Bool) (text : Text) : Option SurrogateFault :=
  let before := text.takeWhile isWritten
  let together := (text.drop before.length).takeWhile CodePoint.isSurrogate
  together.head?.map fun first => ⟨before.length, first.toNat, together.length⟩

/-- The bytes of a code point that is no surrogate. -/
def utf8Bytes : CodePoint → List UInt8
  | .char c => String.utf8EncodeChar c
  | .surrogate _ => []

def utf8Encode (text : Text) : Except SurrogateFault (List UInt8) :=
  match surrogateFault? (fun c => !c.isSurrogate) text with
  | some fault => .error fault
  | none => .ok (text.flatMap utf8Bytes)

end EntityDiagram.Text
