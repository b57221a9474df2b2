import EntityDiagram.Text
import EntityDiagram.Text.Hex
import EntityDiagram.Text.Printable

/-!
# Quoted literals

A text in messages stands between quotes: single ones, unless it holds a single quote and no
double one. The quote and the backslash are escaped, the three common controls have short
escapes, and any other code point that is not printable is written by its number in the narrowest of
three widths.
-/

namespace EntityDiagram.Text

def quoteFor (text : Text) : Char :=
  if text.contains '\'' && !text.contains '"' then '"' else '\''

/-- A code point behind the escape letter of the narrowest fitting width. -/
def codeEscape (code : Nat) : List Char :=
  if code < 0x100 then '\\' :: 'x' :: hexPadded 2 code
  else if code < 0x10000 then '\\' :: 'u' :: hexPadded 4 code
  else '\\' :: 'U' :: hexPadded 8 code

def quotedChar (quote c : Char) : List Char :=
  if c == quote || c == '\\' then ['\\', c]
  else if c == '\n' then ['\\', 'n']
  else if c == '\r' then ['\\', 'r']
  else if c == '\t' then ['\\', 't']
  else if isPrintable c then [c]
  else codeEscape c.toNat

def quotedCodePoint (quote : Char) : CodePoint → List Char
  | .char c => quotedChar quote c
  | other => codeEscape other.toNat

def quoted (text : Text) : String :=
  let quote := quoteFor text
  String.ofList (quote :: text.flatMap (quotedCodePoint quote) ++ [quote])

def quotedByte (quote : Char) (byte : UInt8) : List Char :=
  if byte < 0x80 then quotedChar quote (Char.ofNat byte.toNat) else codeEscape byte.toNat

def quotedBytes (bytes : List UInt8) : String :=
  let quote := quoteFor (ofChars (bytes.map fun byte => Char.ofNat byte.toNat))
  String.ofList ('b' :: quote :: bytes.flatMap (quotedByte quote) ++ [quote])

end EntityDiagram.Text
