import EntityDiagram.Yaml.Cursor
import EntityDiagram.Yaml.Token

/-!
# Names, tags and directives

Anchors and aliases are names. A tag is written in full between angle brackets, as a lone mark, or
as a handle with a suffix. Directives stand before a document, each on a line of its own.
-/

namespace EntityDiagram.Yaml

open Scan

/-- Reads a name, which has at least one character. -/
def readName (cause : ProblemCause) : Scan String := do
  require (isNameChar (← peek)) cause
  return String.ofList (← run isNameChar)

/-- Characters that may follow the name of an anchor or alias. -/
def endsAnchor (c : Char) : Bool :=
  isGap c || c == '\x7d' || "?:,]%@\x60".toList.contains c

/-- Reads the name of an anchor or alias behind its indicator. -/
def readAnchor : Scan String := do
  pass 1
  let name ← readName .badAnchor
  requireNext endsAnchor .badAnchor
  return name

def hexDigitAt (count : Nat) (cause : ProblemCause) : Scan Nat := do
  match Text.hexValue? (← peekAt count) with
  | some digit => return digit
  | none => problem cause

/-- Reads bytes written as a percent sign and two hexadecimal digits; those read so far are kept in
reverse. -/
def readPercentBytes : (fuel : Nat) → (done : List UInt8) → Scan (List UInt8)
  | 0, _ => outOfFuel
  | fuel + 1, done => do
      if (← peek) == '%' then
        pass 1
        let high ← hexDigitAt 0 .badTag
        let low ← hexDigitAt 1 .badTag
        pass 2
        readPercentBytes fuel (UInt8.ofNat (high * 16 + low) :: done)
      else return done.reverse

def readUriFrom : (fuel : Nat) → (done : List Char) → Scan (List Char)
  | 0, _ => outOfFuel
  | fuel + 1, done => do
      let plain ← run fun c => isUriChar c && c != '%'
      if (← peek) == '%' then
        match Text.utf8Decode (← readPercentBytes (← turns) []) with
        | .ok escaped => readUriFrom fuel (done ++ plain ++ escaped)
        | .error _ => problem .badTag
      else return done ++ plain

/-- Reads the text of a tag, which has at least one character. -/
def readUri : Scan String := do
  require (isUriChar (← peek)) .badTag
  return String.ofList (← readUriFrom (← turns) [])

/-- Reads a handle: a lone mark, or a name between two marks, which may be empty. -/
def readHandle : Scan String := do
  requireNext (· == '!') .badTag
  if (← peekAt 1) == ' ' then
    pass 1
    return "!"
  else
    let name := ((← get).rest.drop 1).takeWhile isNameChar
    if (← peekAt (name.length + 1)) == '!' then
      pass (name.length + 2)
      return "!" ++ String.ofList name ++ "!"
    else problem .badTag

/-- Whether the tag at the cursor has a second mark, which makes a handle of what is before it. -/
def hasHandle : Scan Bool := do
  let front := ((← get).rest.drop 1).takeWhile fun c => !(c == '!' || isSpaceOrEnd c)
  return (← peekAt (front.length + 1)) == '!'

def readTagForm : Scan TokenKind := do
  let c ← peekAt 1
  if c == '<' then
    pass 2
    let suffix ← readUri
    requireNext (· == '>') .badTag
    pass 1
    return .tag none suffix
  else if isGap c then
    pass 1
    return .tag none "!"
  else if ← hasHandle then
    let handle ← readHandle
    return .tag (some handle) (← readUri)
  else
    pass 1
    return .tag (some "!") (← readUri)

def readTag : Scan TokenKind := do
  let kind ← readTagForm
  requireNext isSpaceOrEnd .badTag
  return kind

/-- Passes the rest of a line, which holds nothing but a comment. -/
def endLine (cause : ProblemCause) : Scan Unit := do
  skipSpaces
  skipComment
  requireNext isLineEnd cause
  discard lineBreak?

/-- The number of digits that a decimal number may have. -/
def maxDecimalDigits : Nat := 4300

def readVersionNumber : Scan Nat := do
  requireNext Char.isDigit .badDirective
  let digits := (← get).rest.takeWhile Char.isDigit
  discard (peekAt digits.length)
  if maxDecimalDigits < digits.length then throw (.scalar (.tooManyDigits digits.length))
  else
    pass digits.length
    return digits.foldl (fun n c => n * 10 + (c.toNat - 0x30)) 0

def readVersion : Scan TokenKind := do
  skipSpaces
  let major ← readVersionNumber
  requireNext (· == '.') .badDirective
  pass 1
  let minor ← readVersionNumber
  requireNext isSpaceOrEnd .badDirective
  return .versionDirective major minor

def readTagPrefix : Scan TokenKind := do
  skipSpaces
  let handle ← readHandle
  requireNext (· == ' ') .badDirective
  skipSpaces
  let uri ← readUri
  requireNext isSpaceOrEnd .badDirective
  return .tagDirective handle uri

/-- Reads what follows the name of a directive. A directive with another name is passed over. -/
def readDirectiveBody (name : String) : Scan TokenKind :=
  if name == "YAML" then readVersion
  else if name == "TAG" then readTagPrefix
  else do
    discard (run fun c => !isLineEnd c)
    return .unknownDirective

def readDirective : Scan TokenKind := do
  pass 1
  let name ← readName .badDirective
  requireNext isSpaceOrEnd .badDirective
  let kind ← readDirectiveBody name
  endLine .badDirective
  return kind

end EntityDiagram.Yaml
