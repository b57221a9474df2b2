import EntityDiagram.Text.Hex

/-!
# The SHA-1 digest

A message is padded to whole blocks of 64 bytes that end in its length in bits. Each block is
expanded to 80 words, which are mixed one by one into a state of five words.
-/

namespace EntityDiagram.Digest

structure Sha1State where
  a : UInt32
  b : UInt32
  c : UInt32
  d : UInt32
  e : UInt32
deriving DecidableEq, Repr

def Sha1State.start : Sha1State :=
  ⟨0x67452301, 0xEFCDAB89, 0x98BADCFE, 0x10325476, 0xC3D2E1F0⟩

def rotate (word places : UInt32) : UInt32 :=
  (word <<< places) ||| (word >>> (32 - places))

/-- Eight bytes of a number, the highest first. -/
def lengthBytes (n : Nat) : List UInt8 :=
  [56, 48, 40, 32, 24, 16, 8, 0].map fun shift => UInt8.ofNat (n >>> shift)

/-- The message with its padding: a set bit, zeros, and the length in bits. -/
def padded (message : List UInt8) : List UInt8 :=
  let zeros := (119 - message.length % 64) % 64
  message ++ 0x80 :: List.replicate zeros 0 ++ lengthBytes (8 * message.length)

def wordsOf : List UInt8 → List UInt32
  | a :: b :: c :: d :: rest =>
      (a.toUInt32 <<< 24 ||| b.toUInt32 <<< 16 ||| c.toUInt32 <<< 8 ||| d.toUInt32) :: wordsOf rest
  | _ => []

/-- The word that follows in the schedule, whose last words are given with the latest first. -/
def nextWord (latest : List UInt32) : UInt32 :=
  let back (n : Nat) := latest.getD (n - 1) 0
  rotate (back 3 ^^^ back 8 ^^^ back 14 ^^^ back 16) 1

/-- Extends a schedule, kept with the latest word first. -/
def extendSchedule : (count : Nat) → List UInt32 → List UInt32
  | 0, latest => latest
  | count + 1, latest => extendSchedule count (nextWord latest :: latest)

def schedule (block : List UInt32) : List UInt32 :=
  (extendSchedule 64 block.reverse).reverse

/-- The mixing function and the constant of a round. -/
def roundMix (round : Nat) (b c d : UInt32) : UInt32 × UInt32 :=
  if round < 20 then ((b &&& c) ||| (~~~b &&& d), 0x5A827999)
  else if round < 40 then (b ^^^ c ^^^ d, 0x6ED9EBA1)
  else if round < 60 then ((b &&& c) ||| (b &&& d) ||| (c &&& d), 0x8F1BBCDC)
  else (b ^^^ c ^^^ d, 0xCA62C1D6)

def Sha1State.mix (state : Sha1State) (round : Nat) (word : UInt32) : Sha1State :=
  let (mixed, constant) := roundMix round state.b state.c state.d
  ⟨rotate state.a 5 + mixed + state.e + constant + word,
    state.a, rotate state.b 30, state.c, state.d⟩

def Sha1State.add (x y : Sha1State) : Sha1State :=
  ⟨x.a + y.a, x.b + y.b, x.c + y.c, x.d + y.d, x.e + y.e⟩

def Sha1State.mixAll (state : Sha1State) (round : Nat) : List UInt32 → Sha1State
  | [] => state
  | word :: rest => (state.mix round word).mixAll (round + 1) rest

def Sha1State.takeBlock (state : Sha1State) (block : List UInt32) : Sha1State :=
  state.add (state.mixAll 0 (schedule block))

def Sha1State.takeBlocks (state : Sha1State) : (count : Nat) → List UInt32 → Sha1State
  | 0, _ => state
  | count + 1, words => (state.takeBlock (words.take 16)).takeBlocks count (words.drop 16)

/-- The digest of a message as 40 hexadecimal digits. -/
def sha1Hex (message : List UInt8) : List Char :=
  let words := wordsOf (padded message)
  let final := Sha1State.start.takeBlocks (words.length / 16) words
  [final.a, final.b, final.c, final.d, final.e].flatMap fun word => Text.hexPadded 8 word.toNat

end EntityDiagram.Digest
