import Commissioner.Credentials.PrivateKey
import Commissioner.Credentials.ShortDigest

/-!
# Signatures on curves

Whoever holds the secret behind a point of a curve signs octets by two numbers, and
the point is enough to check them: they tell two multiples, one of the base point
and one of the public point, whose sum has the first number for a coordinate.
-/

set_option autoImplicit false

namespace Commissioner

namespace Curve

/-- How far the coordinates of a point are from the points of all curves of this
form. The points of one curve have it in common. -/
def offset (curve : Curve) (x y : Nat) : Nat :=
  Numbers.difference curve.prime ((y * y + 3 * x) % curve.prime) (x * x * x % curve.prime)

/-- Whether coordinates are those of a point of the curve. -/
def isOn (curve : Curve) (x y : Nat) : Bool :=
  match curve.base with
  | .infinity => false
  | .at baseX baseY =>
      x < curve.prime && y < curve.prime && curve.offset x y == curve.offset baseX baseY

/-- The point that octets spell. -/
def decode? (curve : Curve) (octets : Octets) : Option CurvePoint :=
  match octets with
  | 0x04 :: coordinates =>
      let x := Numbers.value (coordinates.take curve.width)
      let y := Numbers.value (coordinates.drop curve.width)
      if coordinates.length = 2 * curve.width ∧ curve.isOn x y then some (.at x y) else none
  | _ => none

/-- Whether two numbers sign a digest for a public point. -/
def isSigned (curve : Curve) (key : CurvePoint) (digest : Octets) (r s : Nat) : Bool :=
  if 0 < r ∧ r < curve.order ∧ 0 < s ∧ s < curve.order then
    let hash := Numbers.value (digest.take curve.width) % curve.order
    let sum :=
      curve.add (curve.multiple (Numbers.quotient curve.order hash s) curve.base)
        (curve.multiple (Numbers.quotient curve.order r s) key)
    match sum with
    | .infinity => false
    | .at x _ => x % curve.order == r
  else false

end Curve

namespace Signature

open Element Element.Reader

/-- A way of signing. -/
structure Scheme where
  curve : PrivateKey.NamedCurve
  /-- The digest that is signed. -/
  digest : Octets → Octets
  /-- The content of the element that names the way of signing. -/
  algorithm : Octets

namespace Scheme

/-- The content of the element that names signing on a curve with the digest that
has this number. -/
def name (digest : UInt8) : Octets :=
  Element.encode ⟨identifier, [0x2A, 0x86, 0x48, 0xCE, 0x3D, 0x04, 0x03, digest]⟩

/-- The ways of signing. -/
def all : List Scheme :=
  PrivateKey.NamedCurve.all.flatMap fun curve =>
    [⟨curve, ShortDigest.ofOctets, name 2⟩, ⟨curve, Digest.cut, name 3⟩]

end Scheme

/-- Reads the two numbers of a signature. -/
def numbers : Reader Unit (Nat × Nat) :=
  within group () do
    let r ← magnitude ()
    let s ← magnitude ()
    return (Numbers.value r, Numbers.value s)

/-- Reads the description of a public key: its kind and the key itself. -/
def keyParts : Reader Unit (Octets × Octets) := do
  let algorithm ← expect group ()
  return (algorithm, ← bits ())

/-- What comes of checking a signature. -/
inductive Outcome where
  /-- It is a signature by the holder of the key. -/
  | good
  /-- It is none. -/
  | bad
  /-- The description of the key cannot be read. -/
  | malformed
  /-- The way of signing is not known here. -/
  | unknownScheme
  /-- The key is of this kind, which does not go with the way of signing. -/
  | otherKey (kind : Octets)
  deriving DecidableEq

/-- Checks a signature for octets against a key of the right kind. -/
def Scheme.check (scheme : Scheme) (key octets signature : Octets) : Outcome :=
  match scheme.curve.curve.decode? key, whole numbers () signature with
  | some point, .ok (r, s) =>
      if scheme.curve.curve.isSigned point (scheme.digest octets) r s then .good else .bad
  | _, _ => .bad

/-- Checks a signature for octets, made in a way with a name, against the
description of a public key. -/
def check (key algorithm octets signature : Octets) : Outcome :=
  match Scheme.all.filter (·.algorithm = algorithm) with
  | [] => .unknownScheme
  | schemes =>
      match whole keyParts () key with
      | .error () => .malformed
      | .ok (kind, content) =>
          match schemes.find? (·.curve.algorithm = kind) with
          | none => .otherKey kind
          | some scheme => scheme.check content octets signature

end Signature

end Commissioner
