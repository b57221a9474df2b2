import EntityDiagram.Text.Utf8

/-!
# Texts of file names

The names of files are bytes, nearly always in UTF-8. Bytes that are not are shown in the text of a
name by surrogates: one for each byte, from the upper half of the low surrogates.
-/

namespace EntityDiagram.Text

/-- The surrogate of the byte zero; only bytes that are no ASCII need one. -/
def byteSurrogate : Nat := 0xDC00

/-- The bytes of a code point of a file name, if it has any. -/
def fileNameBytes? : CodePoint → Option (List UInt8)
  | .char c => some (String.utf8EncodeChar c)
  | other =>
      let byte := other.toNat - byteSurrogate
      if 0x80 ≤ byte && byte < 0x100 then some [UInt8.ofNat byte] else none

def fileNameEncode (text : Text) : Except SurrogateFault (List UInt8) :=
  match surrogateFault? (fun c => (fileNameBytes? c).isSome) text with
  | some fault => .error fault
  | none => .ok (text.flatMap fun c => (fileNameBytes? c).getD [])

/-- The text of bytes, of which the first `skip` belong to a character that was read before. -/
def fileNameDecodeFrom : (skip : Nat) → List UInt8 → Text
  | _, [] => []
  | skip + 1, _ :: rest => fileNameDecodeFrom skip rest
  | 0, byte :: rest =>
      match utf8Step byte rest with
      | .char c length => .char c :: fileNameDecodeFrom (length - 1) rest
      | .malformed _ _ =>
          CodePoint.ofNat (byteSurrogate + byte.toNat) :: fileNameDecodeFrom 0 rest

def fileNameDecode (bytes : List UInt8) : Text := fileNameDecodeFrom 0 bytes

end EntityDiagram.Text
