import Commissioner.Credentials.Numbers

/-!
# Curves

Keys live on curves `y² = x³ - 3x + b` over the numbers modulo a prime. The
points of a curve, together with one at infinity, can be added, and the public
key that belongs to a secret number is that multiple of a fixed point. What is
signed with a key is no business of this library, so points are added by the
textbook rule.
-/

set_option autoImplicit false

namespace Commissioner

/-! ## Points -/

inductive CurvePoint where
  /-- The point at infinity. -/
  | infinity
  /-- The point with these coordinates. -/
  | at (x y : Nat)
  deriving DecidableEq

structure Curve where
  prime : Nat
  /-- The point of which public keys are multiples. -/
  base : CurvePoint
  /-- The number of multiples of that point. -/
  order : Nat
  /-- The number of octets that a coordinate or a secret takes. -/
  width : Nat

namespace Curve

/-- The third point on a line with a slope through the points with these
coordinates, on the other side of the axis. -/
def chord (curve : Curve) (slope x y x' : Nat) : CurvePoint :=
  let third :=
    Numbers.difference curve.prime
      (Numbers.difference curve.prime (slope * slope % curve.prime) x) x'
  .at third
    (Numbers.difference curve.prime
      (slope * Numbers.difference curve.prime x third % curve.prime) y)

/-- The sum of two points. -/
def add (curve : Curve) : CurvePoint → CurvePoint → CurvePoint
  | .infinity, point => point
  | point, .infinity => point
  | .at x y, .at x' y' =>
      if x = x' then
        if (y + y') % curve.prime = 0 then .infinity
        else
          let rise := Numbers.difference curve.prime (3 * x * x % curve.prime) (3 % curve.prime)
          curve.chord (Numbers.quotient curve.prime rise (2 * y % curve.prime)) x y x'
      else
        let rise := Numbers.difference curve.prime y' y
        let run := Numbers.difference curve.prime x' x
        curve.chord (Numbers.quotient curve.prime rise run) x y x'

def multiple (curve : Curve) (n : Nat) (point : CurvePoint) : CurvePoint :=
  if n = 0 then .infinity
  else
    let rest := curve.multiple (n / 2) (curve.add point point)
    if n % 2 = 0 then rest else curve.add point rest
termination_by n

/-! ## Octets -/

/-- A point as it is written. -/
def encode (curve : Curve) : CurvePoint → Octets
  | .infinity => [0]
  | .at x y => 0x04 :: (Numbers.spell x curve.width ++ Numbers.spell y curve.width)

/-- The public key that belongs to a secret, which has the width of the curve and
lies between zero and the order. -/
def publicKey? (curve : Curve) (secret : Octets) : Option Octets :=
  let n := Numbers.value secret
  if secret.length = curve.width ∧ 0 < n ∧ n < curve.order then
    some (curve.encode (curve.multiple n curve.base))
  else none

/-! ## Two curves -/

/-- The curve with coordinates of 256 bits. -/
def p256 : Curve where
  prime := 0xffffffff00000001000000000000000000000000ffffffffffffffffffffffff
  base :=
    .at 0x6b17d1f2e12c4247f8bce6e563a440f277037d812deb33a0f4a13945d898c296
      0x4fe342e2fe1a7f9b8ee7eb4a7c0f9e162bce33576b315ececbb6406837bf51f5
  order := 0xffffffff00000000ffffffffffffffffbce6faada7179e84f3b9cac2fc632551
  width := 32

/-- The curve with coordinates of 384 bits. -/
def p384 : Curve where
  prime :=
    0xfffffffffffffffffffffffffffffffffffffffffffffffffffffffffffffffeffffffff0000000000000000ffffffff
  base :=
    .at
      0xaa87ca22be8b05378eb1c71ef320ad746e1d3b628ba79b9859f741e082542a385502f25dbf55296c3a545e3872760ab7
      0x3617de4a96262c6f5d9e98bf9292dc29f8f41dbd289a147ce9da3113b5f0b8c00a60b1ce1d7e819d7a431d7c90ea0e5f
  order :=
    0xffffffffffffffffffffffffffffffffffffffffffffffffc7634d81f4372ddf581a0db248b0a77aecec196accc52973
  width := 48

end Curve

end Commissioner
