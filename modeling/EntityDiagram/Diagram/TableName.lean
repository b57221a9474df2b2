import EntityDiagram.Diagram.Field
import EntityDiagram.Digest.Sha1
import EntityDiagram.Text.Utf8

/-!
# Names of nested tables

A nested table is named after its field, with a suffix that tells it from the tables of other
fields of the same name: six digits of a digest of its place, or six random characters.
-/

namespace EntityDiagram

-- Powers are those of the core library, whatever else is imported.
attribute [local instance (high)] instPowNat

def suffixLength : Nat := 6

def suffixedName (field : Text) (suffix : List Char) : Text :=
  field ++ "_" ++ Text.ofChars suffix

/-- The name of the table below a field, which depends on nothing but the table and the field. Their
texts are digested as bytes, which surrogates do not have. -/
def hashedName (table field : Text) : Except Text.SurrogateFault Text := do
  let place ← Text.utf8Encode (table ++ "." ++ field)
  return suffixedName field ((Digest.sha1Hex place).take suffixLength)

/-- Entities bear their own names, and nested tables get hashed ones; names that cannot be written
are refused. -/
def hashedNaming : Naming (Except Fault) where
  entity := Scalar.written
  nested table field := (hashedName table field).mapError .surrogates

def suffixAlphabet : List Char := "abcdefghijklmnopqrstuvwxyz0123456789".toList

def spelledSuffix : (length : Nat) → Nat → List Char
  | 0, _ => []
  | length + 1, n => suffixAlphabet.getD (n % 36) 'a' :: spelledSuffix length (n / 36)

def randomName (draw : Nat) (field : Text) : Text :=
  suffixedName field (spelledSuffix suffixLength draw)

/-- Entities bear their own names, and nested tables get suffixes from a source of random
numbers. -/
def randomNaming : Naming (StateT StdGen (Except Fault)) where
  entity name := liftM name.written
  nested _ field := do
    let (draw, next) := randNat (← get) 0 (suffixAlphabet.length ^ suffixLength - 1)
    set next
    return randomName draw field

end EntityDiagram
