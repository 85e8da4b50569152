import Commissioner.Credentials.Armour
import Commissioner.Credentials.Curve
import Commissioner.Credentials.Edwards
import Commissioner.Credentials.Modulus

/-!
# Private keys

A private key comes by itself, in a section that says of which kind it is, or in
a general wrapping that names its kind. Keys of two primes, keys on two curves and
keys on the twisted curve are read, in this order. Only the public key that
belongs to a private one matters here, and where a key states its public key, that
has to be the one that belongs to it.
-/

set_option autoImplicit false

namespace Commissioner

/-- A private key, as far as it matters here. -/
structure PrivateKey where
  /-- The content of the element that describes its public key. -/
  publicKey : Octets
  deriving DecidableEq

namespace PrivateKey

open Element Element.Reader

/-- A reader of a part of a key. -/
abbrev Part (α : Type) : Type :=
  Reader Unit α

/-- The content of the element that describes a public key, given what names its
kind. -/
def describe (algorithm publicKey : Octets) : Octets :=
  Element.encode ⟨group, algorithm⟩ ++ Element.encode ⟨bitString, 0 :: publicKey⟩

/-! ## The general wrapping -/

/-- Reads the public key at the end of a wrapping that has to hold it. -/
def statedKey : Part Octets := do
  if ← isNext (place 1) then within (place 1) () (bits ())
  else
    let content ← expect (implicitPlace 1) ()
    match content with
    | 0 :: octets => return octets
    | _ => throw ()

/-- Reads the general wrapping of a key: the key itself, and the public key if the
wrapping is of the second version, which only some kinds of key have. -/
def wrapping (algorithm : Octets) (secondVersion : Bool) : Part (Octets × Option Octets) :=
  within group () do
    let version ← smallNumber ()
    if (← expect group ()) ≠ algorithm then throw ()
    if version ≠ 0 ∧ ¬ (secondVersion ∧ version = 1) then throw ()
    let content ← expect octetString ()
    if ← isNext (place 0) then
      let _attributes ← expect (place 0) ()
    if version = 0 then return (content, none)
    else return (content, some (← statedKey))

/-- The key in a general wrapping of the first version. -/
def unwrap? (algorithm octets : Octets) : Option Octets :=
  match whole (wrapping algorithm false) () octets with
  | .ok (content, _) => some content
  | .error _ => none

/-! ## Keys of two primes -/

/-- What names keys of two primes. -/
def modulusAlgorithm : Octets :=
  Element.encode ⟨identifier, [0x2A, 0x86, 0x48, 0x86, 0xF7, 0x0D, 0x01, 0x01, 0x01]⟩
    ++ Element.encode ⟨nothing, []⟩

/-- Reads the key of two primes in a section. -/
def ofModulus? (found : Armour.Section) : Option PrivateKey := do
  let content ← match found.kind with
    | .rsaKey => some found.content
    | .privateKey => unwrap? modulusAlgorithm found.content
    | _ => none
  let key ← ModulusKey.ofOctets? content
  return ⟨describe modulusAlgorithm key.publicOctets⟩

/-! ## Keys on curves -/

/-- A curve on which keys are read, with its name as it is written. -/
structure NamedCurve where
  curve : Curve
  /-- The content of the element that names it. -/
  id : Octets

namespace NamedCurve

/-- The curves on which keys are read. -/
def all : List NamedCurve :=
  [⟨.p256, [0x2A, 0x86, 0x48, 0xCE, 0x3D, 0x03, 0x01, 0x07]⟩,
    ⟨.p384, [0x2B, 0x81, 0x04, 0x00, 0x22]⟩]

/-- The element that names a curve. -/
def name (named : NamedCurve) : Octets :=
  Element.encode ⟨identifier, named.id⟩

/-- What names keys on a curve. -/
def algorithm (named : NamedCurve) : Octets :=
  Element.encode ⟨identifier, [0x2A, 0x86, 0x48, 0xCE, 0x3D, 0x02, 0x01]⟩ ++ named.name

end NamedCurve

/-- Reads a key on a curve: its secret and its public key. -/
def curveKey (named : NamedCurve) : Part (Octets × Octets) :=
  within group () do
    if (← smallNumber ()) ≠ 1 then throw ()
    let secret ← expect octetString ()
    if ← isNext (place 0) then
      if (← expect (place 0) ()) ≠ named.name then throw ()
    let publicKey ← within (place 1) () (bits ())
    return (secret, publicKey)

/-- Reads the key on a curve in a section. -/
def onCurve? (found : Armour.Section) (named : NamedCurve) : Option PrivateKey := do
  let content ← match found.kind with
    | .ecKey => some found.content
    | .privateKey => unwrap? named.algorithm found.content
    | _ => none
  let (secret, publicKey) ← (whole (curveKey named) () content).toOption
  if named.curve.publicKey? secret = some publicKey then
    return ⟨describe named.algorithm publicKey⟩
  else none

/-! ## Keys on the twisted curve -/

/-- What names keys on the twisted curve. -/
def edwardsAlgorithm : Octets :=
  Element.encode ⟨identifier, [0x2B, 0x65, 0x70]⟩

/-- Reads the key on the twisted curve in a section. -/
def ofEdwards? (found : Armour.Section) : Option PrivateKey := do
  if found.kind ≠ .privateKey then none
  let (content, stated) ← (whole (wrapping edwardsAlgorithm true) () found.content).toOption
  let seed ← (whole (expect octetString ()) () content).toOption
  if seed.length ≠ Edwards.seedSize then none
  let publicKey := Edwards.publicKey seed
  if stated.getD publicKey = publicKey then return ⟨describe edwardsAlgorithm publicKey⟩
  else none

/-! ## The key in a section -/

/-- Reads the key in a section. -/
def ofSection? (found : Armour.Section) : Option PrivateKey :=
  ofModulus? found <|> NamedCurve.all.findSome? (onCurve? found) <|> ofEdwards? found

end PrivateKey

end Commissioner
