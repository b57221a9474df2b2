/-!
# Bytes in base 64

Every four characters of the alphabet give three bytes. Other characters are passed over; padding
ends the data where it completes a group of four.
-/

namespace EntityDiagram.Text

/-- The six bits of a character of the alphabet. -/
def sixBits? (c : Char) : Option Nat :=
  if 'A' ≤ c && c ≤ 'Z' then some (c.toNat - 0x41)
  else if 'a' ≤ c && c ≤ 'z' then some (c.toNat - 0x47)
  else if c.isDigit then some (c.toNat + 4)
  else if c == '+' then some 62
  else if c == '/' then some 63
  else none

/-- Decodes characters. `place` counts the characters of the current group, `left` holds their
bits that are in no byte yet, and `pads` counts the padding since the last of them. -/
def decodeGroups (place left pads : Nat) : List Char → Option (List UInt8)
  | [] => if place = 0 then some [] else none
  | c :: rest =>
      if c = '=' then
        if place < 2 then decodeGroups place left pads rest
        else if 4 ≤ place + pads + 1 then some []
        else decodeGroups place left (pads + 1) rest
      else
        match sixBits? c with
        | none => decodeGroups place left pads rest
        | some bits =>
            let whole := left * 64 + bits
            match place with
            | 0 => decodeGroups 1 bits 0 rest
            | 1 => (decodeGroups 2 (whole % 16) 0 rest).map (UInt8.ofNat (whole / 16) :: ·)
            | 2 => (decodeGroups 3 (whole % 4) 0 rest).map (UInt8.ofNat (whole / 4) :: ·)
            | _ => (decodeGroups 0 0 0 rest).map (UInt8.ofNat whole :: ·)

/-- The bytes that a text gives in base 64, if its last group is complete. -/
def base64Decode? (text : List Char) : Option (List UInt8) :=
  decodeGroups 0 0 0 text

end EntityDiagram.Text
