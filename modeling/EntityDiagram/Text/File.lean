import EntityDiagram.Decimal.Binary
import EntityDiagram.Text.Utf8

/-!
# Text files

A file is fetched in chunks, and each chunk is decoded together with the bytes that the one before
it left unfinished; malformed bytes are counted from there. Every line end becomes a line feed. The
text is handed out in blocks of characters, so that malformed bytes spoil no block that could be
completed before their chunk was fetched.
-/

namespace EntityDiagram.Text

-- Powers are those of the core library, whatever else is imported.
attribute [local instance (high)] instPowNat

open Decimal (Double)

/-- The least number of bytes that are fetched at once. -/
def chunkSize : Nat := 8192

/-- The number of characters that are handed out at once. -/
def blockSize : Nat := 4096

/-- Makes every line end a line feed. -/
def normalizeLines : List Char → List Char
  | '\r' :: '\n' :: rest => '\n' :: normalizeLines rest
  | '\r' :: rest => '\n' :: normalizeLines rest
  | c :: rest => c :: normalizeLines rest
  | [] => []

/-- What is left of a file, and what is known from the chunks before. -/
structure Decoding where
  bytes : List UInt8
  /-- The bytes of a character that the last chunk left unfinished. -/
  unfinished : List UInt8
  /-- Whether the last chunk ended in a carriage return, which may be half of a line end. -/
  heldReturn : Bool
  /-- The numbers of bytes and of characters of the last chunk. -/
  lastBytes : Nat
  lastChars : Nat

/-- The number of bytes that are expected to hold so many characters, as floating-point numbers
give it. -/
def expectedBytes (lastBytes lastChars missing : Nat) : Nat :=
  match (Double.ofRatio false lastBytes lastChars).magnitude with
  | .finite significand exponent =>
      (Double.ofRatio false (significand * missing * 2 ^ exponent.toNat)
        (2 ^ (-exponent).toNat)).wholePart
  | _ => 0

def Decoding.fetchSize (decoding : Decoding) (missing : Nat) : Nat :=
  if decoding.lastChars == 0 then max chunkSize missing
  else max (max chunkSize missing) (expectedBytes decoding.lastBytes decoding.lastChars missing)

/-- The characters of a decoded chunk, and whether its last carriage return is held back. -/
def settleReturns (heldReturn final : Bool) (chars : List Char) : List Char × Bool :=
  let chars := if heldReturn && (final || !chars.isEmpty) then '\r' :: chars else chars
  if !final && chars.getLast? == some '\r' then (normalizeLines chars.dropLast, true)
  else (normalizeLines chars, heldReturn && !final && chars.isEmpty)

def Decoding.fetch (decoding : Decoding) (missing : Nat) :
    Except Utf8Fault (List Char × Decoding) :=
  let size := decoding.fetchSize missing
  let chunk := decoding.bytes.take size
  let final := chunk.isEmpty
  let reading := utf8Read (decoding.unfinished ++ chunk)
  let refused := reading.fault.filter fun fault => final || fault.reason != .unexpectedEnd
  match refused with
  | some fault => .error fault
  | none =>
      let (chars, heldReturn) := settleReturns decoding.heldReturn final reading.chars
      .ok (chars,
        ⟨decoding.bytes.drop size, reading.rest, heldReturn, chunk.length, chars.length⟩)

/-- A text as it is read from a file: the characters of the blocks that can be handed out, and the
fault that spoils the block behind them. -/
structure FileText where
  chars : List Char
  fault : Option Utf8Fault
deriving DecidableEq, Repr

/-- Decodes chunk by chunk; the characters decoded so far are kept in reverse. There is no text if
the fuel is used up. -/
def Decoding.run : (fuel : Nat) → (done : List Char) → (count : Nat) → Decoding → Option FileText
  | 0, _, _, _ => none
  | fuel + 1, done, count, decoding =>
      match decoding.fetch (blockSize - count % blockSize) with
      | .error fault => some ⟨done.reverse.take (blockSize * (count / blockSize)), some fault⟩
      | .ok (chars, next) =>
          if decoding.bytes.isEmpty then some ⟨(chars.reverseAux done).reverse, none⟩
          else Decoding.run fuel (chars.reverseAux done) (count + chars.length) next

variable {decoding next : Decoding} {missing : Nat} {chars : List Char}

theorem Decoding.fetchSize_pos : 0 < decoding.fetchSize missing := by
  unfold fetchSize chunkSize
  split <;> omega

/-- A chunk is taken from the bytes that are left. -/
theorem Decoding.length_of_fetch (fetched : decoding.fetch missing = .ok (chars, next))
    (more : decoding.bytes.isEmpty = false) : next.bytes.length < decoding.bytes.length := by
  unfold fetch at fetched
  dsimp only at fetched
  split at fetched
  · cases fetched
  · cases fetched
    have left : 0 < decoding.bytes.length := List.length_pos_iff.mpr (by simpa using more)
    rw [List.length_drop]
    exact Nat.sub_lt left fetchSize_pos

theorem Decoding.run_isSome {fuel : Nat} (enough : decoding.bytes.length < fuel)
    (done : List Char) (count : Nat) : (decoding.run fuel done count).isSome := by
  induction fuel generalizing decoding done count with
  | zero => omega
  | succ fuel ih =>
      unfold run
      split
      · rfl
      next chars next fetched =>
        split
        · rfl
        next more =>
          have shorter := length_of_fetch fetched (eq_false_of_ne_true more)
          exact ih (by omega) _ _

def decodeFile (bytes : List UInt8) : FileText :=
  Option.get (Decoding.run (bytes.length + 1) [] 0 ⟨bytes, [], false, 0, 0⟩)
    (Decoding.run_isSome (Nat.lt_succ_self _) _ _)

end EntityDiagram.Text
