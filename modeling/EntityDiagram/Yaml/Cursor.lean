import EntityDiagram.Text.File
import EntityDiagram.Yaml.Character
import EntityDiagram.Yaml.Steps

/-!
# Scanning a YAML text

A text is handed out in blocks, and a block that holds a character which no text may hold, or bytes
that are no text, is only noticed when the scanner asks for a character in it. So a cursor knows the
characters up to such a block and what is wrong with it, and asking for a character behind them
ends the scan.
-/

namespace EntityDiagram.Yaml

/-- The rest of a text and where it starts. Order marks do not move the column. -/
structure Cursor where
  rest : List Char
  /-- What is wrong with the block behind the rest; without it the text ends there. -/
  barrier : Option LoadFault
  index : Nat
  line : Nat
  column : Nat
deriving Repr

namespace Cursor

def start (text : List Char) (barrier : Option LoadFault) : Cursor :=
  ⟨text, barrier, 0, 0, 0⟩

def behind (cursor : Cursor) (count : Nat) : Cursor where
  rest := cursor.rest.drop count
  barrier := cursor.barrier
  index := cursor.index + count
  line := cursor.line
  column := cursor.column + ((cursor.rest.take count).filter (· != orderMark)).length

def behindLine (cursor : Cursor) : Cursor where
  rest := cursor.rest.drop 1
  barrier := cursor.barrier
  index := cursor.index + 1
  line := cursor.line + 1
  column := 0

/-- The number of characters that are left, which bounds the turns of every loop over them. -/
def left (cursor : Cursor) : Nat := cursor.rest.length

/-- A place in the text up to which `count` characters stand. -/
def placeBehind (line column : Nat) : (count : Nat) → List Char → Nat × Nat
  | 0, _ => (line, column)
  | _, [] => (line, column)
  | count + 1, c :: rest =>
      if isBreak c then placeBehind (line + 1) 0 count rest
      else placeBehind line (column + 1) count rest

/-- The number of characters that are handed out before the scan starts. -/
def openingSize : Nat := 2 * Text.blockSize

/-- The start of characters in blocks: a block that holds a character which no text may hold is a
barrier, unless it is handed out before the scan starts. -/
def ofBlocks (chars : List Char) (barrier : Option LoadFault) : Except LoadFault Cursor :=
  let position := (chars.takeWhile isReadable).length
  match chars[position]? with
  | none => .ok (start chars barrier)
  | some c =>
      let (line, column) := placeBehind 0 0 position chars
      let fault := LoadFault.at (.unreadableCharacter c.toNat) line column
      if position < openingSize then .error fault
      else .ok (start (chars.take (Text.blockSize * (position / Text.blockSize))) (some fault))

def ofFile (text : Text.FileText) : Except LoadFault Cursor :=
  match text.fault with
  | none => ofBlocks text.chars none
  | some fault =>
      if text.chars.length < openingSize then .error (.undecodable fault)
      else ofBlocks text.chars (some (.undecodable fault))

end Cursor

abbrev Scan (α : Type) := Steps Cursor α

namespace Scan

/-- The character after `count` others; the end of the text has a mark of its own. -/
def peekAt (count : Nat) : Scan Char := do
  let cursor ← get
  match cursor.rest.drop count, cursor.barrier with
  | c :: _, _ => return c
  | [], none => return endMark
  | [], some fault => throw fault

def peek : Scan Char := peekAt 0

/-- Passes characters that lie on the current line. The character behind them is asked for. -/
def pass (count : Nat) : Scan Unit := do
  discard (peekAt count)
  modify fun cursor => cursor.behind count

def run (among : Char → Bool) : Scan (List Char) := do
  let passed := (← get).rest.takeWhile among
  pass passed.length
  return passed

def skipSpaces : Scan Unit := discard (run (· == ' '))

/-- Passes a comment, if one starts here. -/
def skipComment : Scan Unit := do
  if (← peek) == '#' then discard (run fun c => !isLineEnd c)

/-- Passes the end of a line, if the line ends here. The next-line character is read as a plain line
feed. -/
def lineBreak? : Scan (Option Char) := do
  let c ← peek
  if isBreak c then
    discard (peekAt 1)
    modify Cursor.behindLine
    return some (if c == '\x85' then '\n' else c)
  else return none

/-- Whether the text goes on with three equal marks that separate documents and a gap. -/
def atSeparator : Scan Bool := do
  discard (peekAt 2)
  let next := (← get).rest.take 3
  if next == ['-', '-', '-'] || next == ['.', '.', '.'] then return isGap (← peekAt 3)
  else return false

/-- The fuel for a loop: every turn but the last passes a character. -/
def turns : Scan Nat := return (← get).left + 1

def problem {α : Type} (cause : ProblemCause) : Scan α := do
  let cursor ← get
  throw (LoadFault.at cause cursor.line cursor.column)

/-- Complains unless a condition holds. -/
def require (condition : Bool) (cause : ProblemCause) : Scan Unit :=
  if condition then return else problem cause

/-- Complains unless the next character is of a class. -/
def requireNext (among : Char → Bool) (cause : ProblemCause) : Scan Unit := do
  require (among (← peek)) cause

end Scan

end EntityDiagram.Yaml
