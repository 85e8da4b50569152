import Commissioner.Credentials.Numbers

/-!
# Digests

The digests of octets with 512 and 384 bits. The octets are filled up to whole
blocks of 128, the last sixteen of which hold their number of bits, and each block
stirs a state of eight words of 64 bits. The words of the first state and of the
rounds are the first 64 binary places of the square and cube roots of the first
primes, so they are computed here and not listed. The shorter digest begins with
the roots of later primes and is cut.
-/

set_option autoImplicit false

namespace Commissioner.Digest

/-! ## Roots of primes -/

/-- The largest number between two bounds whose power with an exponent is at most
a number, where the lower bound is such a number and the bounds are less than
`2 ^ fuel` apart. -/
def rootBetween (exponent n : Nat) : Nat → Nat → Nat → Nat
  | 0, low, _ => low
  | fuel + 1, low, high =>
      let middle := (low + high) / 2
      if Nat.pow middle exponent ≤ n then rootBetween exponent n fuel middle high
      else rootBetween exponent n fuel low middle

/-- The first 64 binary places of a root of a number below 512. -/
def rootPlaces (exponent n : Nat) : UInt64 :=
  UInt64.ofNat
    (rootBetween exponent (n * Nat.pow 0x10000000000000000 exponent) 80 0
      (512 * 0x10000000000000000))

/-- Whether a number is a prime. -/
def isPrime (n : Nat) : Bool :=
  2 ≤ n && (List.range n).all fun d => d < 2 || n % d ≠ 0

/-- The primes below 410, of which there are eighty. -/
def primes : List Nat :=
  (List.range 410).filter isPrime

/-- The first state. -/
def start : List UInt64 :=
  (primes.take 8).map (rootPlaces 2)

/-- The first state of the shorter digest. -/
def laterStart : List UInt64 :=
  ((primes.drop 8).take 8).map (rootPlaces 2)

def roundWords : List UInt64 :=
  primes.map (rootPlaces 3)

/-! ## Words -/

/-- A word turned to the right. -/
def turn (word : UInt64) (count : UInt64) : UInt64 :=
  (word >>> count) ||| (word <<< (64 - count))

/-- The words that octets spell, eight octets to a word. -/
def words : Octets → List UInt64
  | a :: b :: c :: d :: e :: f :: g :: h :: rest =>
      UInt64.ofNat (Numbers.value [a, b, c, d, e, f, g, h]) :: words rest
  | _ => []

/-- So many words more of a schedule, of which the last sixteen are given, the
last one first. -/
def extend : Nat → List UInt64 → List UInt64
  | 0, _ => []
  | count + 1, latest =>
      let back (places : Nat) : UInt64 := latest.getD (places - 1) 0
      let near := turn (back 2) 19 ^^^ turn (back 2) 61 ^^^ (back 2 >>> 6)
      let far := turn (back 15) 1 ^^^ turn (back 15) 8 ^^^ (back 15 >>> 7)
      let next := near + back 7 + far + back 16
      next :: extend count (next :: latest.take 15)

/-- The eighty words of the schedule of a block. -/
def schedule (block : List UInt64) : List UInt64 :=
  block ++ extend 64 block.reverse

/-! ## Blocks -/

/-- One round, with its word and the word of the schedule. -/
def round (state : List UInt64) (given : UInt64 × UInt64) : List UInt64 :=
  match state with
  | [a, b, c, d, e, f, g, h] =>
      let choice := (e &&& f) ^^^ ((~~~e) &&& g)
      let majority := (a &&& b) ^^^ (a &&& c) ^^^ (b &&& c)
      let first := h + (turn e 14 ^^^ turn e 18 ^^^ turn e 41) + choice + given.1 + given.2
      let second := (turn a 28 ^^^ turn a 34 ^^^ turn a 39) + majority
      [first + second, a, b, c, d + first, e, f, g]
  | _ => state

/-- What a block makes of a state. -/
def stir (state block : List UInt64) : List UInt64 :=
  List.zipWith (· + ·) state ((roundWords.zip (schedule block)).foldl round state)

/-- Octets filled up to whole blocks: by one with the high bit alone, zeros, and
the number of bits. -/
def filled (octets : Octets) : Octets :=
  let zeros := (128 - (octets.length + 17) % 128) % 128
  octets ++ 0x80 :: List.replicate zeros 0 ++ Numbers.spell (octets.length * 8) 16

/-- What so many blocks make of a state. -/
def stirAll : Nat → List UInt64 → List UInt64 → List UInt64
  | 0, state, _ => state
  | count + 1, state, words => stirAll count (stir state (words.take 16)) (words.drop 16)

/-- What octets make of a state, spelled. -/
def digest (start : List UInt64) (octets : Octets) : Octets :=
  let words := words (filled octets)
  (stirAll (words.length / 16) start words).flatMap fun word => Numbers.spell word.toNat 8

/-- The digest of octets with 512 bits. -/
def ofOctets (octets : Octets) : Octets :=
  digest start octets

/-- The digest of octets with 384 bits. -/
def cut (octets : Octets) : Octets :=
  (digest laterStart octets).take 48

end Commissioner.Digest
