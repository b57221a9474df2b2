import EntityDiagram.Yaml.Token.Scalar

/-!
# From text to tokens

The indentation of blocks opens and closes brackets that are not written. A key is recognised only
at the colon behind it, so places where a key may start are kept as candidates, one for each open
flow collection and one for the block around them; a colon turns the candidate into a key, whose
token is put in front of the tokens read since. When the scan is ended by a fault, the tokens in
front of all candidates can be read nevertheless.
-/

namespace EntityDiagram.Yaml

structure KeyCandidate where
  position : Nat
  /-- A candidate at the indentation of its block has to become a key. -/
  required : Bool
  index : Nat
  line : Nat
  column : Nat
deriving Repr

/-- A key found after the tokens behind it; it may open a block mapping. -/
structure KeyMark where
  position : Nat
  opensMapping : Bool
  line : Nat
  column : Nat
deriving Repr

def KeyMark.tokens (mark : KeyMark) : List Token :=
  let key : Token := ⟨.key, mark.line, mark.column⟩
  if mark.opensMapping then [⟨.blockMappingStart, mark.line, mark.column⟩, key] else [key]

/-- Puts the tokens of keys in front of the tokens that they start at. The tokens passed are kept in
reverse. -/
def spliceKeys (done : List Token) (position : Nat) : List KeyMark → List Token → List Token
  | _, [] => done.reverse
  | [], tokens => done.reverse ++ tokens
  | mark :: marks, token :: tokens =>
      if mark.position == position then
        spliceKeys (token :: (mark.tokens.reverse ++ done)) (position + 1) marks tokens
      else spliceKeys (token :: done) (position + 1) (mark :: marks) tokens

structure Lexer where
  cursor : Cursor
  /-- The tokens read, the latest first. -/
  tokens : List Token
  count : Nat
  /-- The keys found, the one behind most tokens first. -/
  marks : List KeyMark
  /-- The column of the innermost block, with those of the blocks around it. -/
  indent : Int
  outer : List Int
  candidate : Option KeyCandidate
  around : List (Option KeyCandidate)
  keyAllowed : Bool

namespace Lexer

def start (cursor : Cursor) : Lexer where
  cursor := cursor
  tokens := []
  count := 0
  marks := []
  indent := -1
  outer := []
  candidate := none
  around := []
  keyAllowed := true

def inFlow (lexer : Lexer) : Bool := !lexer.around.isEmpty

def opensBlock (column : Nat) (lexer : Lexer) : Bool := lexer.indent < column

def enterBlock (column : Nat) (lexer : Lexer) : Lexer :=
  { lexer with indent := column, outer := lexer.indent :: lexer.outer }

def add (kind : TokenKind) (line column : Nat) (lexer : Lexer) : Lexer :=
  { lexer with tokens := ⟨kind, line, column⟩ :: lexer.tokens, count := lexer.count + 1 }

/-- Adds a token at the cursor that has no characters. -/
def addMark (kind : TokenKind) (lexer : Lexer) : Lexer :=
  lexer.add kind lexer.cursor.line lexer.cursor.column

/-- Closes the blocks that are indented further than a column, unless a flow collection is open. -/
def closeBlocks (column : Int) (lexer : Lexer) : Lexer :=
  if lexer.inFlow then lexer else close lexer.outer lexer
where
  close : List Int → Lexer → Lexer
    | [], lexer => lexer
    | outer :: rest, lexer =>
        if column < lexer.indent then
          close rest { lexer.addMark .blockEnd with indent := outer, outer := rest }
        else lexer

def allTokens (lexer : Lexer) : List Token :=
  spliceKeys [] 0 lexer.marks.reverse lexer.tokens.reverse

/-- The number of tokens in front of all candidates. -/
def settledCount (lexer : Lexer) : Nat :=
  ((lexer.candidate :: lexer.around).filterMap fun candidate =>
    candidate.map KeyCandidate.position).foldl min lexer.count

/-- The tokens in front of all candidates, which no key can come between any more. -/
def settledTokens (lexer : Lexer) : List Token :=
  spliceKeys [] 0 lexer.marks.reverse (lexer.tokens.reverse.take lexer.settledCount)

end Lexer

abbrev Lex (α : Type) := Steps Lexer α

namespace Lex

def scan {α : Type} (read : Scan α) : Lex α := fun lexer =>
  (fun (result, cursor) => (result, { lexer with cursor })) <$> read lexer.cursor

/-- Whether a key may stretch from a candidate to the cursor: they are on one line and at most
1024 characters apart. -/
def inReach (cursor : Cursor) (candidate : KeyCandidate) : Bool :=
  candidate.line == cursor.line && cursor.index ≤ candidate.index + 1024

/-- A candidate that was lost, which must not be required. -/
def loseKey (cursor : Cursor) (candidate : KeyCandidate) : Except LoadFault (Option KeyCandidate) :=
  if candidate.required then .error (.at .missingColon cursor.line cursor.column) else .ok none

def dropStale (cursor : Cursor) :
    Option KeyCandidate → Except LoadFault (Option KeyCandidate)
  | none => .ok none
  | some candidate =>
      if inReach cursor candidate then .ok (some candidate) else loseKey cursor candidate

/-- A lexer without the candidates that are out of reach. -/
def withoutStale (lexer : Lexer) : Except LoadFault Lexer := do
  let around ← lexer.around.mapM (dropStale lexer.cursor)
  let candidate ← dropStale lexer.cursor lexer.candidate
  return { lexer with candidate, around }

/-- Drops every candidate that is out of reach. -/
def dropStaleKeys : Lex Unit := do
  set (← withoutStale (← get))

def dropKey : Lex Unit := do
  let lexer ← get
  match lexer.candidate with
  | none => return
  | some candidate => set { lexer with candidate := ← loseKey lexer.cursor candidate }

def saveKey : Lex Unit := do
  if (← get).keyAllowed then
    dropKey
    modify fun lexer =>
      let cursor := lexer.cursor
      let required := !lexer.inFlow && lexer.indent == cursor.column
      { lexer with
        candidate := some ⟨lexer.count, required, cursor.index, cursor.line, cursor.column⟩ }

def allowKey (allowed : Bool) : Lex Unit :=
  modify fun lexer => { lexer with keyAllowed := allowed }

def token (read : Scan TokenKind) : Lex Unit := do
  let start := (← get).cursor
  let kind ← scan read
  modify fun lexer => lexer.add kind start.line start.column

def fixed (kind : TokenKind) (length : Nat) : Lex Unit :=
  token do
    Scan.pass length
    return kind

def problem {α : Type} (cause : ProblemCause) : Lex α := scan (Scan.problem cause)

/-- Enters the block at the cursor with the token that opens it, if it is new. Something that starts
a block stands where a key may start. -/
def openBlock (opening : TokenKind) (cause : ProblemCause) : Lex Unit := do
  let lexer ← get
  if lexer.inFlow then return
  else if !lexer.keyAllowed then problem cause
  else
    let column := lexer.cursor.column
    if lexer.opensBlock column then set ((lexer.addMark opening).enterBlock column)

/-- Passes spaces, comments and line ends. In a block a key may start on a new line. -/
def skipGaps : (fuel : Nat) → Lex Unit
  | 0 => outOfFuel
  | fuel + 1 => do
      scan Scan.skipSpaces
      scan Scan.skipComment
      match ← scan Scan.lineBreak? with
      | none => return
      | some _ =>
          modify fun lexer => { lexer with keyAllowed := lexer.keyAllowed || !lexer.inFlow }
          skipGaps fuel

def skipOrderMark : Lex Unit := do
  if (← get).cursor.index == 0 then
    if (← scan Scan.peek) == orderMark then scan (Scan.pass 1)

/-- Moves to the next token: gaps are passed, candidates dropped and blocks closed. -/
def advance : Lex Unit := do
  skipOrderMark
  skipGaps (← scan Scan.turns)
  dropStaleKeys
  modify fun lexer => lexer.closeBlocks lexer.cursor.column

/-- Leaves all blocks, before a directive or a separator of documents. -/
def leaveBlocks : Lex Unit := do
  modify fun lexer => lexer.closeBlocks (-1)
  dropKey
  allowKey false

def finish : Lex Unit := do
  leaveBlocks
  modify fun lexer => { lexer.addMark .streamEnd with candidate := none }

def separator (kind : TokenKind) : Lex Unit := do
  leaveBlocks
  fixed kind 3

def directive : Lex Unit := do
  leaveBlocks
  token readDirective

def openFlow (kind : TokenKind) : Lex Unit := do
  saveKey
  modify fun lexer =>
    { lexer with
      candidate := none, around := lexer.candidate :: lexer.around, keyAllowed := true }
  fixed kind 1

def closeFlow (kind : TokenKind) : Lex Unit := do
  dropKey
  let lexer ← get
  match lexer.around with
  | [] => problem .unmatchedBracket
  | candidate :: around =>
      set { lexer with candidate, around, keyAllowed := false }
      fixed kind 1

def flowEntry : Lex Unit := do
  allowKey true
  dropKey
  fixed .flowEntry 1

def blockEntry : Lex Unit := do
  openBlock .blockSequenceStart .entryNotAllowed
  allowKey true
  dropKey
  fixed .blockEntry 1

def explicitKey : Lex Unit := do
  openBlock .blockMappingStart .keyNotAllowed
  allowKey !(← get).inFlow
  dropKey
  fixed .key 1

/-- Adds a mark to marks, of which the one behind most tokens stands first. -/
def insertMark (mark : KeyMark) : List KeyMark → List KeyMark
  | [] => [mark]
  | other :: rest =>
      if other.position < mark.position then mark :: other :: rest
      else other :: insertMark mark rest

def markKey (candidate : KeyCandidate) (lexer : Lexer) : Lexer :=
  let opens := !lexer.inFlow && lexer.opensBlock candidate.column
  let mark : KeyMark := ⟨candidate.position, opens, candidate.line, candidate.column⟩
  let entered := if opens then lexer.enterBlock candidate.column else lexer
  { entered with candidate := none, marks := insertMark mark lexer.marks, keyAllowed := false }

/-- Reads a colon, which makes a key of the innermost candidate. -/
def value : Lex Unit := do
  match (← get).candidate with
  | some candidate => modify (markKey candidate)
  | none =>
      openBlock .blockMappingStart .valueNotAllowed
      allowKey !(← get).inFlow
  fixed .value 1

def part (read : Scan TokenKind) : Lex Unit := do
  saveKey
  allowKey false
  token read

def plain : Lex Unit := do
  saveKey
  let lexer ← get
  let (text, ended) ← scan (readPlain lexer.inFlow (lexer.indent + 1))
  let read : TokenKind := .scalar (Text.ofChars text) true
  modify fun next =>
    { next.add read lexer.cursor.line lexer.cursor.column with keyAllowed := ended }

def block : Lex Unit := do
  allowKey true
  dropKey
  let indent := (← get).indent
  token do return .scalar (Text.ofChars (← readBlock indent)) false

def gapFollows : Lex Bool := scan do return isGap (← Scan.peekAt 1)

/-- Reads a token that is marked by an indicator in front of a gap; inside a flow collection some
indicators need no gap. Without it the indicator starts a plain scalar. -/
def indicator (alone : Bool) (read : Lex Unit) : Lex Unit := do
  if alone then read
  else if ← gapFollows then read
  else plain

/-- Reads the token that starts with the given character, and is no directive or separator. -/
def content (c : Char) : Lex Unit := do
  let inFlow := (← get).inFlow
  match c with
  | '[' => openFlow .flowSequenceStart
  | '\x7b' => openFlow .flowMappingStart
  | ']' => closeFlow .flowSequenceEnd
  | '\x7d' => closeFlow .flowMappingEnd
  | ',' => flowEntry
  | '-' => indicator false blockEntry
  | '?' => indicator inFlow explicitKey
  | ':' => indicator inFlow value
  | '*' => part (TokenKind.alias <$> readAnchor)
  | '&' => part (TokenKind.anchor <$> readAnchor)
  | '!' => part readTag
  | '\'' | '"' => part ((TokenKind.scalar · false) <$> readQuoted)
  | _ =>
      if (c == '|' || c == '>') && !inFlow then block
      else if isGap c || isIndicator c then problem .badCharacter
      else plain

def atSeparator (c : Char) : Lex Bool :=
  if c == '-' || c == '.' then scan Scan.atSeparator else return false

def readToken (c : Char) : Lex Unit := do
  if (← get).cursor.column == 0 then
    if c == '%' then directive
    else if ← atSeparator c then
      separator (if c == '-' then .documentStart else .documentEnd)
    else content c
  else content c

/-- Reads the next token, and says whether it is the end of the text. -/
def step : Lex Bool := do
  advance
  let c ← scan Scan.peek
  if c == endMark then
    finish
    return true
  else
    readToken c
    dropStaleKeys
    return false

/-- Reads tokens to the end of the text, or up to a fault. -/
def readAll : (fuel : Nat) → Lexer → Option Tokens
  | 0, _ => none
  | fuel + 1, lexer => do
      match ← (step.run lexer).run with
      | .error fault => return ⟨lexer.settledTokens, some fault⟩
      | .ok (true, next) => return ⟨next.allTokens, none⟩
      | .ok (false, next) => readAll fuel next

end Lex

end EntityDiagram.Yaml
