import Commissioner.Credentials.Digest

/-!
# Short digests

The digest of octets with 256 bits. It is made like the longer ones, with words of
32 bits, blocks of 64 octets and fewer rounds. Its words of the first state and of
the rounds are the upper halves of theirs.
-/

set_option autoImplicit false

namespace Commissioner.ShortDigest

/-- The upper half of a word. -/
def upper (word : UInt64) : UInt32 :=
  (word >>> 32).toUInt32

/-- The first state. -/
def start : List UInt32 :=
  Digest.start.map upper

def roundWords : List UInt32 :=
  (Digest.roundWords.take 64).map upper

/-- A word turned to the right. -/
def turn (word : UInt32) (count : UInt32) : UInt32 :=
  (word >>> count) ||| (word <<< (32 - count))

/-- The words that octets spell, four octets to a word. -/
def words : Octets → List UInt32
  | a :: b :: c :: d :: rest => UInt32.ofNat (Numbers.value [a, b, c, d]) :: words rest
  | _ => []

/-- So many words more of a schedule, of which the last sixteen are given, the
last one first. -/
def extend : Nat → List UInt32 → List UInt32
  | 0, _ => []
  | count + 1, latest =>
      let back (places : Nat) : UInt32 := latest.getD (places - 1) 0
      let near := turn (back 2) 17 ^^^ turn (back 2) 19 ^^^ (back 2 >>> 10)
      let far := turn (back 15) 7 ^^^ turn (back 15) 18 ^^^ (back 15 >>> 3)
      let next := near + back 7 + far + back 16
      next :: extend count (next :: latest.take 15)

/-- The sixty-four words of the schedule of a block. -/
def schedule (block : List UInt32) : List UInt32 :=
  block ++ extend 48 block.reverse

/-- One round, with its word and the word of the schedule. -/
def round (state : List UInt32) (given : UInt32 × UInt32) : List UInt32 :=
  match state with
  | [a, b, c, d, e, f, g, h] =>
      let choice := (e &&& f) ^^^ ((~~~e) &&& g)
      let majority := (a &&& b) ^^^ (a &&& c) ^^^ (b &&& c)
      let first := h + (turn e 6 ^^^ turn e 11 ^^^ turn e 25) + choice + given.1 + given.2
      let second := (turn a 2 ^^^ turn a 13 ^^^ turn a 22) + majority
      [first + second, a, b, c, d + first, e, f, g]
  | _ => state

/-- What a block makes of a state. -/
def stir (state block : List UInt32) : List UInt32 :=
  List.zipWith (· + ·) state ((roundWords.zip (schedule block)).foldl round state)

/-- Octets filled up to whole blocks: by one with the high bit alone, zeros, and
the number of bits. -/
def filled (octets : Octets) : Octets :=
  let zeros := (64 - (octets.length + 9) % 64) % 64
  octets ++ 0x80 :: List.replicate zeros 0 ++ Numbers.spell (octets.length * 8) 8

/-- What so many blocks make of a state. -/
def stirAll : Nat → List UInt32 → List UInt32 → List UInt32
  | 0, state, _ => state
  | count + 1, state, words => stirAll count (stir state (words.take 16)) (words.drop 16)

def ofOctets (octets : Octets) : Octets :=
  let words := words (filled octets)
  (stirAll (words.length / 16) start words).flatMap fun word => Numbers.spell word.toNat 4

end Commissioner.ShortDigest
