import Commissioner.Credentials.Element
import Commissioner.Credentials.Numbers

/-!
# Keys of two primes

Keys of one kind are made of a product of two primes, a public and a private
exponent, and numbers that speed up their use. A key states all of them, and they
are checked against each other as far as that can be done without factoring: the
sizes, the product, and that the last number is an inverse.
-/

set_option autoImplicit false

namespace Commissioner

/-- The numbers of a key of two primes. -/
structure ModulusKey where
  /-- The product of the primes. -/
  modulus : Nat
  /-- The public exponent. -/
  exponent : Nat
  /-- The private exponent. -/
  secret : Nat
  /-- The first prime. -/
  first : Nat
  /-- The second prime. -/
  second : Nat
  /-- The private exponent modulo the first prime less one. -/
  firstSecret : Nat
  /-- The private exponent modulo the second prime less one. -/
  secondSecret : Nat
  /-- The inverse of the second prime modulo the first. -/
  inverse : Nat
  deriving DecidableEq

namespace ModulusKey

open Element Element.Reader

/-- The smallest number of bits of a product, when filled up to whole octets. -/
def minBits : Nat := 2048

/-- The largest number of bits of a product. -/
def maxBits : Nat := 4096

/-- The smallest public exponent. -/
def minExponent : Nat := 65537

/-- The largest public exponent. -/
def maxExponent : Nat := 0x1FFFFFFFF

/-- Whether a public key is one that can be used. -/
def isPublic (key : ModulusKey) : Bool :=
  let bits := Numbers.bitLength key.modulus
  key.modulus % 2 == 1 && minBits ≤ (bits + 7) / 8 * 8 && bits ≤ maxBits
    && key.exponent % 2 == 1 && minExponent ≤ key.exponent && key.exponent ≤ maxExponent

/-- Whether a number has the size of a prime of the product. -/
def isFactor (key : ModulusKey) (prime : Nat) : Bool :=
  let bits := Numbers.bitLength prime
  prime % 2 == 1 && bits == (Numbers.bitLength key.modulus + 1) / 2 && bits % 512 == 0

/-- Whether a number can be the private exponent modulo a prime less one. -/
def isSecretFor (secret prime : Nat) : Bool :=
  secret % 2 == 1 && secret < prime

/-- Whether the numbers of a key fit together. -/
def isConsistent (key : ModulusKey) : Bool :=
  key.isPublic && key.isFactor key.first && key.isFactor key.second
    && key.first * key.second == key.modulus
    && key.secret % 2 == 1 && key.secret < key.modulus
    && (Numbers.bitLength key.modulus + 1) / 2 < Numbers.bitLength key.secret
    && key.inverse < key.first && key.inverse * key.second % key.first == 1
    && isSecretFor key.firstSecret key.first && isSecretFor key.secondSecret key.second

def numbers : Reader Unit ModulusKey :=
  within group () do
    if (← smallNumber ()) ≠ 0 then throw ()
    let number : Reader Unit Nat := do return Numbers.value (← magnitude ())
    let modulus ← number
    let exponent ← number
    let secret ← number
    let first ← number
    let second ← number
    let firstSecret ← number
    let secondSecret ← number
    let inverse ← number
    return ⟨modulus, exponent, secret, first, second, firstSecret, secondSecret, inverse⟩

/-- Reads a key whose numbers fit together. -/
def ofOctets? (octets : Octets) : Option ModulusKey :=
  match whole numbers () octets with
  | .ok key => if key.isConsistent then some key else none
  | .error _ => none

/-- The octets of the content of an element for a number: as few as there can be,
with a zero in front where the number would look negative without it. -/
def numberContent (n : Nat) : Octets :=
  Numbers.spell n (Numbers.bitLength n / 8 + 1)

/-- The public key as it is written. -/
def publicOctets (key : ModulusKey) : Octets :=
  Element.encode ⟨group, Element.encode ⟨integer, numberContent key.modulus⟩
    ++ Element.encode ⟨integer, numberContent key.exponent⟩⟩

end ModulusKey

end Commissioner
