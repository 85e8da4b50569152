import Commissioner.Credentials.Numbers

/-!
# Decoders

What travels in TLS is spelled by numbers of a fixed width, high octet first, and
by blocks of octets behind their length. A decoder takes a part off the front of a
run of octets, or says in what way the run is corrupt.
-/

set_option autoImplicit false

namespace Commissioner.Tls

/-! ## Corruption -/

/-- In what way octets are corrupt. -/
inductive Corruption where
  /-- They end before this part. -/
  | missing (part : String)
  /-- More comes behind this part, or inside it, than belongs there. -/
  | trailing (part : String)
  /-- A block is shorter than it says. -/
  | tooShort
  /-- A block that has to hold something is empty. -/
  | emptyBlock
  | emptyList (parts : String)
  /-- A record is of no known kind. -/
  | recordKind
  /-- A record is of a version of another protocol. -/
  | recordVersion
  | emptyRecord
  /-- A record is too large. -/
  | largeRecord
  /-- A handshake message is too large. -/
  | largeMessage
  /-- Certificates take too much room. -/
  | largeCertificates
  /-- A change of ciphers is spelled by another number than one. -/
  | cipherChange
  /-- A message has the number of one that never travels. -/
  | neverSent (message : String)
  /-- An extension occurs twice. -/
  | repeatedExtension (number : Nat)
  /-- A request for another greeting has an extension without a meaning there. -/
  | retryExtension
  /-- A request for another greeting chooses a compression. -/
  | compression
  /-- A request for a certificate names no way of signing. -/
  | noSchemes
  /-- The status of a certificate is of no known kind. -/
  | statusKind
  /-- The parameters of the key exchange cannot be read. -/
  | keyExchange
  /-- What has to be the last extension is not. -/
  | lastExtension
  deriving DecidableEq

namespace Corruption

/-- The name of a way to be corrupt. -/
def title : Corruption → String
  | missing part => "MissingData(\"" ++ part ++ "\")"
  | trailing part => "TrailingData(\"" ++ part ++ "\")"
  | tooShort => "MessageTooShort"
  | emptyBlock => "IllegalEmptyValue"
  | emptyList parts => "IllegalEmptyList(\"" ++ parts ++ "\")"
  | recordKind => "InvalidContentType"
  | recordVersion => "UnknownProtocolVersion"
  | emptyRecord => "InvalidEmptyPayload"
  | largeRecord => "MessageTooLarge"
  | largeMessage => "HandshakePayloadTooLarge"
  | largeCertificates => "CertificatePayloadTooLarge"
  | cipherChange => "InvalidCcs"
  | neverSent message => "UnexpectedMessage(\"" ++ message ++ "\")"
  | repeatedExtension number => "DuplicateExtension(" ++ toString number ++ ")"
  | retryExtension => "UnknownHelloRetryRequestExtension"
  | compression => "UnsupportedCompression"
  | noSchemes => "NoSignatureSchemes"
  | statusKind => "InvalidCertificateStatusType"
  | keyExchange => "MissingKeyExchange"
  | lastExtension => "PreSharedKeyIsNotFinalExtension"

end Corruption

/-! ## Decoders -/

/-- A decoder takes a part off the front of octets, and leaves the rest. -/
abbrev Decoder (α : Type) : Type :=
  StateT Octets (Except Corruption) α

namespace Decoder

variable {α : Type}

/-- So many octets, or else this corruption. -/
def exactly (count : Nat) (shortage : Corruption) : Decoder Octets := fun octets =>
  let taken := octets.take count
  if taken.length = count then .ok (taken, octets.drop count) else .error shortage

/-- All octets that are left. -/
def remainder : Decoder Octets := fun octets =>
  .ok (octets, [])

/-- Whether no octets are left. -/
def isAtEnd : Decoder Bool := do
  return (← get).isEmpty

/-- A number of so many octets that has a name. -/
def named (width : Nat) (name : String) : Decoder Nat := do
  return Numbers.value (← exactly width (.missing name))

/-- A number of so many octets that is named for its bits. -/
def number (width : Nat) : Decoder Nat :=
  named width ("u" ++ toString (8 * width))

/-- A block behind its length, which takes so many octets. -/
def block (width : Nat) : Decoder Octets := do
  exactly (← number width) .tooShort

/-- A block that is not empty, or else this corruption. -/
def fullBlock (width : Nat) (emptiness : Corruption) : Decoder Octets := do
  let length ← number width
  if length = 0 then throw emptiness
  exactly length .tooShort

/-- A block that is not longer than a limit, or else this corruption. -/
def boundedBlock (width limit : Nat) (excess : Corruption) : Decoder Octets := do
  let length ← number width
  if limit < length then throw excess
  exactly length .tooShort

/-- Nothing, where no octets may be left behind this part. -/
def finish (part : String) : Decoder Unit := do
  if !(← isAtEnd) then throw (.trailing part)

/-- Decodes the octets of a block and drops what is left of them. -/
def inside (decoder : Decoder α) (octets : Octets) : Decoder α :=
  match decoder octets with
  | .error corruption => throw corruption
  | .ok (value, _) => return value

/-- Takes a step after another from a state until no octets are left, at most so
many of them. -/
def steps (step : α → Decoder α) : Nat → α → Octets → Except Corruption α
  | 0, state, _ => .ok state
  | count + 1, state, octets =>
      if octets.isEmpty then .ok state
      else
        match step state octets with
        | .error corruption => .error corruption
        | .ok (state, rest) => steps step count state rest

/-- Takes steps through the octets of a block, each of which takes an octet at
least. -/
def through (step : α → Decoder α) (start : α) (octets : Octets) : Decoder α :=
  match steps step octets.length start octets with
  | .error corruption => throw corruption
  | .ok state => return state

/-- Decodes the octets of a block as items. -/
def items (item : Decoder α) (octets : Octets) : Decoder (List α) := do
  return (← through (fun before => return (← item) :: before) [] octets).reverse

end Decoder

end Commissioner.Tls
