import Commissioner.Credentials.Digest

/-!
# The twisted curve

Keys of one kind live on the curve `y² - x² = 1 + d x² y²` over the numbers modulo
`2 ^ 255 - 19`, on which one rule adds any two points. The secret is a seed of
thirty-two octets. Half of its digest, with a few bits set and cleared, is the
number by which the base point is multiplied. Numbers are spelled here with the
low octet first.
-/

set_option autoImplicit false

namespace Commissioner.Edwards

/-- A point of the curve. -/
structure Point where
  x : Nat
  y : Nat
  deriving DecidableEq

def prime : Nat :=
  0x7fffffffffffffffffffffffffffffffffffffffffffffffffffffffffffffed

/-- The factor in the equation of the curve. -/
def factor : Nat :=
  Numbers.quotient prime (prime - 121665) 121666

/-- The point that adds nothing. -/
def neutral : Point :=
  ⟨0, 1⟩

/-- The point of which public keys are multiples. -/
def base : Point :=
  ⟨0x216936d3cd6e53fec0a4e231fdd6dc5c692cc7609525a7b2c9562d608f25d51a,
    0x6666666666666666666666666666666666666666666666666666666666666658⟩

/-- The sum of two points. -/
def add (p q : Point) : Point :=
  let twist := factor * (p.x * q.x % prime) % prime * (p.y * q.y % prime) % prime
  ⟨Numbers.quotient prime ((p.x * q.y + q.x * p.y) % prime) ((1 + twist) % prime),
    Numbers.quotient prime ((p.y * q.y + p.x * q.x) % prime) (Numbers.difference prime 1 twist)⟩

def multiple (n : Nat) (point : Point) : Point :=
  if n = 0 then neutral
  else
    let rest := multiple (n / 2) (add point point)
    if n % 2 = 0 then rest else add point rest
termination_by n

/-- A point as it is written: its second coordinate, with the last bit of the
first in front. -/
def encode (point : Point) : Octets :=
  let sign := if point.x % 2 = 1 then 0x8000000000000000000000000000000000000000000000000000000000000000 else 0
  (Numbers.spell (point.y + sign) 32).reverse

/-- The number of octets of a seed. -/
def seedSize : Nat := 32

/-- The number that a seed stands for: the lower half of its digest, with the
three lowest bits and the highest one cleared and the second highest set. -/
def scalar (seed : Octets) : Nat :=
  let half := Numbers.value ((Digest.ofOctets seed).take 32).reverse
  let bound := 0x4000000000000000000000000000000000000000000000000000000000000000
  half % bound / 8 * 8 + bound

/-- The public key that belongs to a seed. -/
def publicKey (seed : Octets) : Octets :=
  encode (multiple (scalar seed) base)

end Commissioner.Edwards
