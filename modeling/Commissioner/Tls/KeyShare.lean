import Commissioner.Credentials.Edwards
import Commissioner.Tls.Extension

/-!
# Shares of the key exchange

The client offers a share of one group: the points of the curve
`y² = x³ + 486662 x² + x` modulo `2 ^ 255 - 19`, each known by its first
coordinate, which is spelled with the low octet first. A share of the far end is of
no use if eight times its point is the neutral one, for then the secret would be
the same with every key.
-/

set_option autoImplicit false

namespace Commissioner.Tls

namespace KeyShare

/-- The number of the group of which the client offers a share. -/
def offeredGroup : Nat := 0x1D

/-- The number of octets of a share. -/
def size : Nat := 32

/-- The coordinate that a share spells. Its highest bit does not count. -/
def coordinate (content : Octets) : Nat :=
  Numbers.value content.reverse
    % 0x8000000000000000000000000000000000000000000000000000000000000000 % Edwards.prime

/-- Whether the order of the point with a coordinate divides eight: it is the point
at zero, of order two, or its double is, or the double of its double is. The
double of the point at `u` is the point at
`(u² - 1)² / (4 u (u² + 486662 u + 1))`. -/
def isOfSmallOrder (u : Nat) : Bool :=
  let square := u * u % Edwards.prime
  let rise := Numbers.difference Edwards.prime square 1
  u == 0 || rise == 0
    || rise * rise % Edwards.prime == 4 * u * (square + 486662 * u + 1) % Edwards.prime

/-- Whether the share of the far end can be used. -/
def isUsable (share : KeyShare) : Bool :=
  share.content.length = size && !isOfSmallOrder (coordinate share.content)

end KeyShare

end Commissioner.Tls
