import Commissioner.Octets

/-!
# Large numbers

Keys are made of large numbers, which are spelled by octets with the high octet
first. What is computed with them is computed modulo a number.
-/

set_option autoImplicit false

namespace Commissioner.Numbers

/-! ## Spelling -/

/-- The number that octets spell, high octet first. -/
def value (octets : Octets) : Nat :=
  octets.foldl (fun n octet => n * 256 + octet.toNat) 0

/-- The octets that spell a number, high octet first, as many as asked for. -/
def spell (n : Nat) : Nat → Octets
  | 0 => []
  | width + 1 => spell (n / 256) width ++ [UInt8.ofNat n]

/-- The number of binary digits of a number. -/
def bitLength (n : Nat) : Nat :=
  if n = 0 then 0 else Nat.log2 n + 1

/-! ## Arithmetic modulo a number -/

/-- A power modulo a number. -/
def power (modulus base exponent : Nat) : Nat :=
  if exponent = 0 then 1 % modulus
  else
    let root := power modulus (base * base % modulus) (exponent / 2)
    if exponent % 2 = 0 then root else base * root % modulus
termination_by exponent

/-- The difference of two numbers modulo a number, where both are below it. -/
def difference (modulus a b : Nat) : Nat :=
  (a + (modulus - b)) % modulus

/-- The quotient of two numbers modulo a prime that does not divide the divisor:
the power of the divisor with the exponent `prime - 2` is its inverse. -/
def quotient (prime a b : Nat) : Nat :=
  a * power prime b (prime - 2) % prime

end Commissioner.Numbers
