import Commissioner.Credentials.Signature

/-!
# Ciphers and ways of signing

The client offers three suites of ciphers of the newer version, three of the older
one for keys on curves, and three for keys of two primes. Ways of signing are told
by numbers of their own, each of which goes with one kind of key.
-/

set_option autoImplicit false

namespace Commissioner.Tls

/-- A suite of ciphers that the client offers. -/
inductive Suite where
  /-- One of the newer version. -/
  | newer
  /-- One of the older version, for keys on curves. -/
  | curves
  /-- One of the older version, for keys of two primes. -/
  | primes
  deriving DecidableEq

/-- The suite that a number stands for. -/
def Suite.ofNumber? (number : Nat) : Option Suite :=
  if number ∈ [0x1301, 0x1302, 0x1303] then some newer
  else if number ∈ [0xC02B, 0xC02C, 0xCCA9] then some curves
  else if number ∈ [0xC02F, 0xC030, 0xCCA8] then some primes
  else none

/-- A way of signing, known by its number. -/
structure SignatureScheme where
  number : Nat
  deriving DecidableEq

namespace SignatureScheme

/-- Whether a way of signing goes with a suite. -/
def isFor (scheme : SignatureScheme) (suite : Suite) : Bool :=
  match suite with
  | .newer => false
  | .curves => scheme.number ∈ [0x0203, 0x0403, 0x0503, 0x0603, 0x0807]
  | .primes =>
      scheme.number ∈ [0x0201, 0x0401, 0x0501, 0x0601, 0x0804, 0x0805, 0x0806]

/-- Whether the client offers a way of signing. -/
def isOffered (scheme : SignatureScheme) : Bool :=
  scheme.number ∈
    [0x0401, 0x0403, 0x0501, 0x0503, 0x0601, 0x0804, 0x0805, 0x0806, 0x0807]

/-- What names the kinds of key that can sign in an offered way. -/
def keyKinds (scheme : SignatureScheme) : List Octets :=
  if scheme.number ∈ [0x0403, 0x0503] then PrivateKey.NamedCurve.all.map (·.algorithm)
  else if scheme.number = 0x0807 then [PrivateKey.edwardsAlgorithm]
  else [PrivateKey.modulusAlgorithm]

open Element

/-- What names a way of signing with a key of two primes, which has this number and
these parameters. -/
def ofPrimes (number : UInt8) (parameters : Element) : Octets :=
  Element.encode ⟨identifier, [0x2A, 0x86, 0x48, 0x86, 0xF7, 0x0D, 0x01, 0x01, number]⟩
    ++ Element.encode parameters

/-- What names the digest with a number. -/
def digestName (number : UInt8) : Element :=
  ⟨group, Element.encode ⟨identifier, [0x60, 0x86, 0x48, 0x01, 0x65, 0x03, 0x04, 0x02, number]⟩
    ++ Element.encode ⟨nothing, []⟩⟩

/-- The parameters of signing with salt: the digest with a number, the mask that is
made with it, and the number of octets of the salt. -/
def saltParameters (digest size : UInt8) : Element :=
  ⟨group, Element.encode ⟨place 0, Element.encode (digestName digest)⟩
    ++ Element.encode ⟨place 1,
      Element.encode ⟨group, ofPrimes 8 (digestName digest)⟩⟩
    ++ Element.encode ⟨place 2, Element.encode ⟨integer, [size]⟩⟩⟩

/-- What names a way of signing that is offered. -/
def algorithm (scheme : SignatureScheme) : Octets :=
  match scheme.number with
  | 0x0403 => Signature.Scheme.name 2
  | 0x0503 => Signature.Scheme.name 3
  | 0x0807 => PrivateKey.edwardsAlgorithm
  | 0x0401 => ofPrimes 11 ⟨nothing, []⟩
  | 0x0501 => ofPrimes 12 ⟨nothing, []⟩
  | 0x0601 => ofPrimes 13 ⟨nothing, []⟩
  | 0x0804 => ofPrimes 10 (saltParameters 1 32)
  | 0x0805 => ofPrimes 10 (saltParameters 2 48)
  | 0x0806 => ofPrimes 10 (saltParameters 3 64)
  | _ => []

end SignatureScheme

end Commissioner.Tls
