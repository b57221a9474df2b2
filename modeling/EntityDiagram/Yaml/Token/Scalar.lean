import EntityDiagram.Text.Hex
import EntityDiagram.Yaml.Token.Property

/-!
# Scalars of YAML

A scalar is plain, quoted, or a block of lines. In plain and quoted scalars a single line end
becomes a space and further ones stand for themselves; in blocks this is so only in folded ones.
The parts of a scalar that were read before are kept in reverse.
-/

namespace EntityDiagram.Yaml

open Scan

/-- The text of line ends between two parts of a scalar. -/
def foldedBreaks (first : Char) (more : List Char) : List Char :=
  if first != '\n' then first :: more
  else if more.isEmpty then [' ']
  else more

def joinParts (parts : List (List Char)) : List Char := parts.reverse.flatten

/-! ### Plain scalars -/

/-- The length of a plain scalar up to a gap, a mark or a colon that ends it. -/
def plainLength (inFlow : Bool) (length : Nat) : List Char → Nat
  | [] => length
  | c :: rest =>
      let follows := rest.headD endMark
      if isGap c || (c == ':' && (isGap follows || (inFlow && isFlowMark follows))) ||
          (inFlow && (c == '?' || isFlowMark c)) then length
      else plainLength inFlow (length + 1) rest

/-- Reads a part of a plain scalar without gaps. The character that ends it is asked for, and so is
the one behind a colon. -/
def plainPart (inFlow : Bool) : Scan (List Char) := do
  let rest := (← get).rest
  let length := plainLength inFlow 0 rest
  if (← peekAt length) == ':' then discard (peekAt (length + 1))
  pass length
  return rest.take length

/-- Passes empty lines between the lines of a plain scalar. Nothing is returned at a separator of
documents, which ends the scalar. -/
def plainBreaks : (fuel : Nat) → (done : List Char) → Scan (Option (List Char))
  | 0, _ => outOfFuel
  | fuel + 1, done => do
      skipSpaces
      match ← lineBreak? with
      | none => return some done.reverse
      | some c =>
          if ← atSeparator then return none
          else plainBreaks fuel (c :: done)

/-- Passes the gap after a part of a plain scalar, and says whether a line ended. A gap without
text ends the scalar. -/
def plainGap : Scan (List Char × Bool) := do
  let spaces ← run (· == ' ')
  match ← lineBreak? with
  | none => return (spaces, false)
  | some first =>
      if ← atSeparator then return ([], true)
      else
        match ← plainBreaks (← turns) [] with
        | none => return ([], true)
        | some more => return (foldedBreaks first more, true)

/-- Reads a plain scalar of a block at the given indentation, and says whether a line ended after
its last part. -/
def readPlainFrom (inFlow : Bool) (indent : Int) :
    (fuel : Nat) → (done : List (List Char)) → (gap : List Char) → (lineEnded : Bool) →
      Scan (List Char × Bool)
  | 0, _, _, _ => outOfFuel
  | fuel + 1, done, gap, lineEnded => do
      if (← peek) == '#' then return (joinParts done, lineEnded)
      else
        let part ← plainPart inFlow
        if part.isEmpty then return (joinParts done, lineEnded)
        else
          let done := part :: gap :: done
          let (following, ended) ← plainGap
          let cursor ← get
          if following.isEmpty || cursor.rest.head? == some '#' ||
              (!inFlow && (cursor.column : Int) < indent) then
            return (joinParts done, ended)
          else readPlainFrom inFlow indent fuel done following ended

def readPlain (inFlow : Bool) (indent : Int) : Scan (List Char × Bool) := do
  readPlainFrom inFlow indent (← turns) [] [] false

/-! ### Quoted scalars -/

def simpleEscape? : Char → Option Char
  | '0' => some '\x00'
  | 'a' => some '\x07'
  | 'b' => some '\x08'
  | 't' => some '\t'
  | '\t' => some '\t'
  | 'n' => some '\n'
  | 'v' => some '\x0b'
  | 'f' => some '\x0c'
  | 'r' => some '\r'
  | 'e' => some '\x1b'
  | ' ' => some ' '
  | '"' => some '"'
  | '\\' => some '\\'
  | '/' => some '/'
  | 'N' => some '\x85'
  | '_' => some '\u00A0'
  | 'L' => some '\u2028'
  | 'P' => some '\u2029'
  | _ => none

def escapeWidth? : Char → Option Nat
  | 'x' => some 2
  | 'u' => some 4
  | 'U' => some 8
  | _ => none

/-- Passes empty lines inside a quoted scalar, where no separator of documents may stand. -/
def quotedBreaks : (fuel : Nat) → (done : List Char) → Scan (List Char)
  | 0, _ => outOfFuel
  | fuel + 1, done => do
      if ← atSeparator then problem .separatorInScalar
      else
        discard (run fun c => c == ' ' || c == '\t')
        match ← lineBreak? with
        | none => return done.reverse
        | some c => quotedBreaks fuel (c :: done)

def readCodePoint (width : Nat) : Scan CodePoint := do
  let digits ← (List.range width).mapM fun count => hexDigitAt count .badEscape
  let code := digits.foldl (fun code digit => code * 16 + digit) 0
  if 0x110000 ≤ code then throw (.scalar (.codePoint code))
  else
    pass width
    return .ofNat code

/-- Reads an escape, which may also hide the end of a line. -/
def readEscape : Scan Text := do
  pass 1
  let c ← peek
  match simpleEscape? c, escapeWidth? c with
  | some escaped, _ =>
      pass 1
      return [.char escaped]
  | none, some width =>
      pass 1
      return [← readCodePoint width]
  | none, none =>
      match ← lineBreak? with
      | some _ => return Text.ofChars (← quotedBreaks (← turns) [])
      | none => problem .badEscape

def endsQuotedRun (c : Char) : Bool :=
  c == '\'' || c == '"' || c == '\\' || isGap c

/-- Reads a part of a quoted scalar without unescaped gaps, and puts it in front of those read
before. -/
def quotedPart (double : Bool) : (fuel : Nat) → (done : List Text) → Scan (List Text)
  | 0, _ => outOfFuel
  | fuel + 1, done => do
      let done := Text.ofChars (← run fun c => !endsQuotedRun c) :: done
      let c ← peek
      if !double && c == '\'' then
        if (← peekAt 1) == '\'' then
          pass 2
          quotedPart double fuel ([.char c] :: done)
        else return done
      else if (double && c == '\'') || (!double && (c == '"' || c == '\\')) then
        pass 1
        quotedPart double fuel ([.char c] :: done)
      else if double && c == '\\' then
        let escaped ← readEscape
        quotedPart double fuel (escaped :: done)
      else return done

def quotedGap : Scan (List Char) := do
  let spaces ← run fun c => c == ' ' || c == '\t'
  requireNext (· != endMark) .unclosedScalar
  match ← lineBreak? with
  | none => return spaces
  | some first => return foldedBreaks first (← quotedBreaks (← turns) [])

def quotedRest (quote : Char) : (fuel : Nat) → (done : List Text) → Scan (List Text)
  | 0, _ => outOfFuel
  | fuel + 1, done => do
      if (← peek) == quote then
        pass 1
        return done
      else
        let gap := Text.ofChars (← quotedGap)
        let done ← quotedPart (quote == '"') (← turns) (gap :: done)
        quotedRest quote fuel done

def readQuoted : Scan Text := do
  let quote ← peek
  pass 1
  let first ← quotedPart (quote == '"') (← turns) []
  let parts ← quotedRest quote (← turns) first
  return Text.join parts.reverse

/-! ### Block scalars -/

inductive Chomping where
  | strip
  | clip
  | keep
deriving DecidableEq, Repr

structure BlockHeader where
  chomping : Chomping
  increment : Option Nat

def readChomping : Scan (Option Chomping) := do
  let c ← peek
  if c == '+' then
    pass 1
    return some .keep
  else if c == '-' then
    pass 1
    return some .strip
  else return none

/-- Reads a digit that gives the indentation, which is not zero. -/
def readIncrement : Scan (Option Nat) := do
  let c ← peek
  if c == '0' then problem .badBlockHeader
  else if c.isDigit then
    pass 1
    return some (c.toNat - 0x30)
  else return none

def readIndicators : Scan BlockHeader := do
  match ← readChomping with
  | some chomping => return ⟨chomping, ← readIncrement⟩
  | none =>
      match ← readIncrement with
      | some increment => return ⟨(← readChomping).getD .clip, some increment⟩
      | none => return ⟨.clip, none⟩

def readBlockHeader : Scan BlockHeader := do
  let header ← readIndicators
  requireNext isSpaceOrEnd .badBlockHeader
  endLine .badBlockHeader
  return header

/-- Passes up to so many spaces that the column is `indent`. -/
def skipIndent (indent : Nat) : Scan Unit := do
  let cursor ← get
  pass ((cursor.rest.take (indent - cursor.column)).takeWhile (· == ' ')).length

/-- Passes empty lines and up to `indent` spaces of the line after them. -/
def blockBreaks (indent : Nat) : (fuel : Nat) → (done : List Char) → Scan (List Char)
  | 0, _ => outOfFuel
  | fuel + 1, done => do
      skipIndent indent
      match ← lineBreak? with
      | none => return done.reverse
      | some c => blockBreaks indent fuel (c :: done)

/-- Passes empty lines in front of a block whose indentation is not given, and finds the widest
indentation among them and the line after them. -/
def blockIndent : (fuel : Nat) → (done : List Char) → (widest : Nat) → Scan (List Char × Nat)
  | 0, _, _ => outOfFuel
  | fuel + 1, done, widest => do
      skipSpaces
      let widest := max widest (← get).column
      match ← lineBreak? with
      | none => return (done.reverse, widest)
      | some c => blockIndent fuel (c :: done) widest

structure BlockLines where
  parts : List (List Char)
  lastBreak : List Char
  breaks : List Char

/-- Whether a line of a block goes on at its indentation. -/
def goesOn (indent : Nat) : Scan Bool := do
  let next ← peek
  return (← get).column == indent && next != endMark

/-- Whether the next character is a space or a tab. -/
def atSpaceOrTab : Scan Bool := do
  let next ← peek
  return next == ' ' || next == '\t'

/-- Reads the lines of a block that are indented by exactly `indent` columns. -/
def blockLines (folded : Bool) (indent : Nat) :
    (fuel : Nat) → (done : List (List Char)) → (breaks : List Char) → (lastBreak : List Char) →
      Scan BlockLines
  | 0, _, _, _ => outOfFuel
  | fuel + 1, done, breaks, lastBreak => do
      if ← goesOn indent then
        let spaced ← atSpaceOrTab
        let line ← run fun c => !isLineEnd c
        let ended := (← lineBreak?).toList
        let more ← blockBreaks indent (← turns) []
        let done := line :: breaks :: done
        if ← goesOn indent then
          let joint :=
            if folded && ended == ['\n'] && !spaced && !(← atSpaceOrTab) then
              if more.isEmpty then [' '] else []
            else ended
          blockLines folded indent fuel (joint :: done) more ended
        else return ⟨done, ended, more⟩
      else return ⟨done, lastBreak, breaks⟩

def readIndent (least : Nat) : (increment : Option Nat) → Scan (List Char × Nat)
  | none => do
      let (breaks, widest) ← blockIndent (← turns) [] 0
      return (breaks, max least widest)
  | some increment => do
      let indent := least + increment - 1
      return (← blockBreaks indent (← turns) [], indent)

def readBlock (outer : Int) : Scan (List Char) := do
  let folded := (← peek) == '>'
  pass 1
  let header ← readBlockHeader
  let (breaks, indent) ← readIndent (max (outer + 1).toNat 1) header.increment
  let lines ← blockLines folded indent (← turns) [] breaks []
  let tail := match header.chomping with
    | .strip => []
    | .clip => lines.lastBreak
    | .keep => lines.lastBreak ++ lines.breaks
  return joinParts lines.parts ++ tail

end EntityDiagram.Yaml
