import Commissioner.Credentials.Element

/-!
# Certificates

A certificate binds a public key to a name, and is signed with the key of whoever
vouches for that. Reading one decides whether it can be used at all: its version,
the agreement of its two notes of how it was signed, and its extensions have to be
in order. Whoever has to show who it is shows a certificate of the third version.
An authority's may also be of the first, which has no extensions, and what it says
without a meaning here is passed over even where it is critical.
-/

set_option autoImplicit false

namespace Commissioner

structure Certificate where
  /-- The content of the element that is signed. -/
  signed : Octets
  /-- The content of the element that says how it was signed. -/
  algorithm : Octets
  signature : Octets
  /-- The content of the element that names whoever signed it. -/
  issuer : Octets
  /-- The content of the element that says from when and until when it holds. -/
  validity : Octets
  /-- The content of the element that names its holder. -/
  subject : Octets
  /-- The content of the element that describes the public key. -/
  publicKey : Octets
  /-- The contents of the extensions that have a meaning, with their numbers. -/
  extensions : List (UInt8 × Octets)
  deriving DecidableEq

/-- What is known of an authority that is trusted. -/
structure Authority where
  /-- The content of the element that names it. -/
  subject : Octets
  /-- The content of the element that describes its public key. -/
  publicKey : Octets
  deriving DecidableEq

namespace Certificate

/-- Why a certificate cannot be used. -/
inductive Flaw where
  /-- It is not made of elements as it should be. -/
  | malformed
  /-- It is of another version than the third. -/
  | version
  /-- What is signed names another way of signing than the signature. -/
  | signatureAlgorithm
  /-- An extension that has a meaning occurs twice. -/
  | repeatedExtension
  /-- An extension is critical and has no meaning here. -/
  | criticalExtension
  deriving DecidableEq

/-- The flaw in words. -/
def Flaw.message (flaw : Flaw) : String :=
  "invalid peer certificate: " ++
    match flaw with
    | .malformed => "BadEncoding"
    | .version => "Other(OtherError(UnsupportedCertVersion))"
    | .signatureAlgorithm => "Other(OtherError(SignatureAlgorithmMismatch))"
    | .repeatedExtension => "Other(OtherError(ExtensionValueInvalid))"
    | .criticalExtension => "Other(OtherError(UnsupportedCriticalExtension))"

open Element Element.Reader

/-- A reader of a part of a certificate. -/
abbrev Part (α : Type) : Type :=
  Reader Flaw α

/-! ## Extensions -/

structure Extension where
  /-- What it is. -/
  id : Octets
  /-- Whether a reader that does not know it has to refuse the certificate. -/
  critical : Bool
  /-- What it says. -/
  value : Octets

/-- Reads a truth value, which is `false` when it is left out. -/
def flag : Part Bool := do
  if ← isNext boolean then
    within boolean .malformed do
      match ← octet .malformed with
      | 0xFF => return true
      | 0x00 => return false
      | _ => throw .malformed
  else return false

/-- Reads an extension. -/
def extension : Part Extension := do
  let id ← expect identifier .malformed
  let critical ← flag
  let value ← expect octetString .malformed
  return ⟨id, critical, value⟩

/-- The number of the usage of the key among extensions. -/
def keyUsage : UInt8 := 15

/-- The number of other names of the holder. -/
def otherNames : UInt8 := 17

/-- The number of constraints on whom the holder can vouch for. -/
def constraints : UInt8 := 19

/-- The number of the purposes of the key. -/
def purposes : UInt8 := 37

/-- The numbers of the extensions that have a meaning: besides those above they
tell constraints on names and where revocations are found. -/
def knownExtensions : List UInt8 :=
  [keyUsage, otherNames, constraints, 30, 31, purposes]

/-- The number of an extension that has a meaning. -/
def knownExtension? (id : Octets) : Option UInt8 :=
  match id with
  | [0x55, 0x1D, number] => if number ∈ knownExtensions then some number else none
  | _ => none

/-- Whose certificate it is. -/
inductive Holder where
  /-- One that has to show who it is. -/
  | subject
  /-- One that is trusted as it is. -/
  | authority
  deriving DecidableEq

/-- Checks an extension after those in `seen`, and adds it to them. -/
def checkExtension (holder : Holder) (seen : List (UInt8 × Octets)) (extension : Extension) :
    Except Flaw (List (UInt8 × Octets)) :=
  match knownExtension? extension.id with
  | none =>
      if extension.critical && holder = .subject then .error .criticalExtension else .ok seen
  | some number =>
      if (seen.lookup number).isSome then .error .repeatedExtension
      else if number = keyUsage then .ok ((number, extension.value) :: seen)
      else
        match whole (expect group Flaw.malformed) .malformed extension.value with
        | .error flaw => .error flaw
        | .ok content => .ok ((number, content) :: seen)

/-- Reads and checks an extension, before it shows whether more comes behind its
value. -/
def nextExtension (holder : Holder) (seen : List (UInt8 × Octets)) :
    Part (List (UInt8 × Octets)) :=
  within group .malformed do
    match checkExtension holder seen (← extension) with
    | .error flaw => throw flaw
    | .ok seen => return seen

/-- Checks so many extensions, or all that are left if those are fewer. -/
def checkExtensions (holder : Holder) : Nat → List (UInt8 × Octets) → Part (List (UInt8 × Octets))
  | 0, _ => throw .malformed
  | count + 1, seen => do
      if ← isAtEnd then return seen
      checkExtensions holder count (← nextExtension holder seen)

/-- Checks all extensions. An extension takes octets, so there are no more of them
than octets. -/
def allExtensions (holder : Holder) : Part (List (UInt8 × Octets)) := do
  checkExtensions holder ((← get).length + 1) []

/-! ## The certificate -/

/-- Reads the version, which has to be the third. -/
def thirdVersion : Part Unit :=
  within (place 0) .version do
    if (← smallNumber .malformed) = 2 then return () else throw .version

/-- A certificate around what is signed. -/
structure Envelope where
  /-- The content of the element that is signed. -/
  signed : Octets
  /-- The content of the element that says how it was signed. -/
  algorithm : Octets
  signature : Octets

/-- Reads what is signed in a certificate of the third version. -/
def signedPart (holder : Holder) (envelope : Envelope) : Part Certificate := do
  thirdVersion
  let _serial ← expect integer .malformed
  if (← expect group .malformed) ≠ envelope.algorithm then throw .signatureAlgorithm
  let issuer ← expect group .malformed
  let validity ← expect group .malformed
  let subject ← expect group .malformed
  let publicKey ← expect group .malformed
  let extensions ←
    if ← isAtEnd then pure []
    else within (place 3) .malformed (within group .malformed (allExtensions holder))
  return ⟨envelope.signed, envelope.algorithm, envelope.signature, issuer, validity, subject,
    publicKey, extensions⟩

/-- Reads what is signed, how it was signed, and the signature. -/
def envelope : Part Envelope :=
  within group .malformed do
    let signed ← expect group .malformed
    let algorithm ← expect group .malformed
    let signature ← bits .malformed
    return ⟨signed, algorithm, signature⟩

/-- Reads an authority's certificate of the first version. -/
def first : Part Authority :=
  within group .malformed do
    let authority ← within group .malformed do
      let _serial ← expect integer .malformed
      let _algorithm ← expect group .malformed
      let _issuer ← expect group .malformed
      let _validity ← expect group .malformed
      let subject ← expect group .malformed
      let publicKey ← expect group .malformed
      return Authority.mk subject publicKey
    let _algorithm ← expect group .malformed
    let _signature ← expect bitString .malformed
    return authority

/-- The number of octets that the content of a certificate stays below. -/
def sizeLimit : Nat := 65535

/-- Whether the content of a certificate stays below the limit. -/
def isInLimit (octets : Octets) : Bool :=
  match Element.read octets with
  | some (element, _) => element.content.length < sizeLimit
  | none => true

/-- Reads a certificate of the third version. -/
def ofOctets (holder : Holder) (octets : Octets) : Except Flaw Certificate :=
  if isInLimit octets then
    match whole envelope .malformed octets with
    | .error flaw => .error flaw
    | .ok envelope => whole (signedPart holder envelope) .malformed envelope.signed
  else .error .malformed

/-- Reads the certificate of an authority. -/
def authority (octets : Octets) : Except Flaw Authority :=
  match ofOctets .authority octets with
  | .ok certificate => .ok ⟨certificate.subject, certificate.publicKey⟩
  | .error .version =>
      match whole first Flaw.malformed octets with
      | .ok authority => .ok authority
      | .error _ => .error .malformed
  | .error flaw => .error flaw

end Certificate

end Commissioner
