/-!
# Texts

A text is a list of code points. Nearly all of them are characters. A document can also spell one
half of a surrogate pair by an escape; it stays in the text as a code point of its own, which is
neither printable nor part of a word, and which no file can hold.
-/

namespace EntityDiagram

inductive CodePoint where
  | char (c : Char)
  /-- A surrogate, by its distance from the first one. -/
  | surrogate (offset : Fin 0x800)
deriving DecidableEq, Repr, Inhabited

instance : Coe Char CodePoint := ⟨.char⟩

namespace CodePoint

def firstSurrogate : Nat := 0xD800

def toNat : CodePoint → Nat
  | char c => c.toNat
  | surrogate offset => firstSurrogate + offset

def ofNat (code : Nat) : CodePoint :=
  if firstSurrogate ≤ code && code < firstSurrogate + 0x800 then
    surrogate (Fin.ofNat 0x800 (code - firstSurrogate))
  else char (Char.ofNat code)

def isSurrogate : CodePoint → Bool
  | char _ => false
  | surrogate _ => true

/-- Whether a code point is a character of a class. -/
def isIn (among : Char → Bool) : CodePoint → Bool
  | char c => among c
  | surrogate _ => false

/-- A code point as a character; a surrogate is shown by the replacement character. -/
def toChar : CodePoint → Char
  | char c => c
  | surrogate _ => '\uFFFD'

end CodePoint

abbrev Text := List CodePoint

namespace Text

def ofChars (cs : List Char) : Text := cs.map .char

def ofString (s : String) : Text := ofChars s.toList

instance : Coe String Text := ⟨ofString⟩

/-- The characters of a text, with the replacement character for surrogates. -/
def toChars (text : Text) : List Char := text.map CodePoint.toChar

/-- A text as a string, with the replacement character for surrogates. -/
def asString (text : Text) : String := String.ofList text.toChars

def join (texts : List Text) : Text := texts.flatten

def joinWith (separator : Text) (texts : List Text) : Text := separator.intercalate texts

/-- Whether one text does not come after another in the order of their code points. -/
def precedes : Text → Text → Bool
  | [], _ => true
  | _ :: _, [] => false
  | c :: text, d :: other => c.toNat < d.toNat || (c.toNat == d.toNat && precedes text other)

/-! ### Dotted paths -/

/-- Cuts a text at every point, with the segment read so far kept in reverse. -/
def cutAtPoints (current : Text) : Text → List Text
  | [] => [current.reverse]
  | c :: rest =>
      if c = '.' then current.reverse :: cutAtPoints [] rest
      else cutAtPoints (c :: current) rest

/-- The segments of a dotted path. An empty path has one segment, which is empty. -/
def segments (path : Text) : List Text := cutAtPoints [] path

/-! ### Classes of characters -/

/-- Whether a code is in one of some ranges, by which character classes beyond ASCII are kept. The
ranges are ascending and inclusive. -/
def inRanges (ranges : Array (Nat × Nat)) (code : Nat) : Bool :=
  ranges.any fun range => range.1 ≤ code && code ≤ range.2

/-- White space of every script: the spaces and line separators, and the information separators of
ASCII. -/
def isBlank (c : Char) : Bool :=
  let code := c.toNat
  (0x09 ≤ code && code ≤ 0x0D) || (0x1C ≤ code && code ≤ 0x20) || code == 0x85 ||
    code == 0xA0 || code == 0x1680 || (0x2000 ≤ code && code ≤ 0x200A) ||
    code == 0x2028 || code == 0x2029 || code == 0x202F || code == 0x205F || code == 0x3000

/-- A text without the blanks at its two ends. -/
def trimBlanks (cs : List Char) : List Char :=
  ((cs.dropWhile isBlank).reverse.dropWhile isBlank).reverse

end Text

end EntityDiagram
