import Commissioner.Tls.Decoder

/-!
# Extensions

What goes beyond the plain form of a message comes in extensions, each of which
has a number. The far end confirms or chooses in them what the client offered,
and a number never occurs twice.
-/

set_option autoImplicit false

namespace Commissioner.Tls

/-! ## Numbers -/

namespace Extension

/-- The name that is asked for. -/
def serverName : Nat := 0

/-- A promise of the status of the certificate. -/
def statusRequest : Nat := 5

/-- The groups of key exchange. -/
def groups : Nat := 10

def pointFormats : Nat := 11

/-- The ways of signing. -/
def signatures : Nat := 13

/-- The protocol inside. -/
def protocol : Nat := 16

/-- The kind of the client's certificate. -/
def clientCertificate : Nat := 19

/-- The kind of the far end's certificate. -/
def serverCertificate : Nat := 20

/-- Secrets that depend on the whole handshake. -/
def extendedSecret : Nat := 23

/-- Tickets for later sessions. -/
def sessionTicket : Nat := 35

/-- A key that both ends know already. -/
def sharedKey : Nat := 41

/-- Data before the end of the handshake. -/
def earlyData : Nat := 42

/-- The version of the protocol. -/
def version : Nat := 43

/-- What the next greeting has to repeat. -/
def cookie : Nat := 44

/-- How shared keys are used. -/
def sharedKeyModes : Nat := 45

/-- A share of the key exchange. -/
def keyShare : Nat := 51

/-- Parameters of a transport. -/
def transport : Nat := 57

/-- A hidden greeting. -/
def hiddenGreeting : Nat := 0xFE0D

/-- A renewal of the handshake. -/
def renegotiation : Nat := 0xFF01

/-- Decodes the number and the content of an extension. -/
def decode : Decoder (Nat × Octets) := do
  let number ← Decoder.named 2 "ExtensionType"
  return (number, ← Decoder.block 2)

/-- Decodes extensions whose content has no meaning here. -/
def decodeAny : Decoder (List (Nat × Octets)) := do
  Decoder.items decode (← Decoder.block 2)

end Extension

/-! ## What the far end confirms or chooses -/

/-- A share of the key exchange. -/
structure KeyShare where
  /-- The number of the group. -/
  group : Nat
  /-- The share itself. -/
  content : Octets
  deriving DecidableEq

/-- The extensions of the far end. -/
structure ServerExtensions where
  /-- Their numbers, the last one first. -/
  numbers : List Nat
  /-- Whether points may be written in full, where the forms of points are told. -/
  fullPoints : Option Bool
  /-- The share of the key exchange. -/
  share : Option KeyShare
  /-- The number of the version. -/
  version : Option Nat
  deriving DecidableEq

namespace ServerExtensions

open Decoder Extension

def none : ServerExtensions :=
  ⟨[], .none, .none, .none⟩

/-- The numbers of extensions that only confirm something. -/
def confirmations : List Nat :=
  [serverName, statusRequest, extendedSecret, sessionTicket, earlyData]

/-- The numbers of extensions with a meaning. -/
def meaningful : List Nat :=
  confirmations ++
    [pointFormats, protocol, clientCertificate, serverCertificate, sharedKey, Extension.version,
      keyShare, transport, hiddenGreeting, renegotiation]

/-- Decodes the name of the protocol inside, which is the only one in a list. -/
def protocolName : Decoder Unit := do
  let names ← fullBlock 2 (.emptyList "ProtocolNames")
  inside (do
    let _name ← fullBlock 1 .emptyBlock
    finish "SingleProtocolName") names

/-- Decodes a share of the key exchange. -/
def decodeShare : Decoder KeyShare := do
  let group ← named 2 "NamedGroup"
  return ⟨group, ← fullBlock 2 .emptyBlock⟩

/-- Decodes the content of the extension with a number, if that has a meaning. -/
def content (found : ServerExtensions) (number : Nat) : Decoder ServerExtensions := do
  if confirmations.contains number then
    finish "Empty"
    return found
  else if number = pointFormats then
    let formats ← fullBlock 1 (.emptyList "ECPointFormats")
    return { found with fullPoints := some (formats.contains 0) }
  else if number = protocol then
    protocolName
    return found
  else if number = clientCertificate ∨ number = serverCertificate then
    let _kind ← named 1 "CertificateType"
    return found
  else if number = sharedKey then
    let _place ← Decoder.number 2
    return found
  else if number = Extension.version then
    return { found with version := some (← named 2 "ProtocolVersion") }
  else if number = keyShare then
    return { found with share := some (← decodeShare) }
  else if number = hiddenGreeting then
    let _settings ← block 2
    return found
  else if number = renegotiation then
    let _check ← block 1
    return found
  else
    let _content ← remainder
    return found

/-- Decodes the next extension behind those that were found. -/
def next (found : ServerExtensions) : Decoder ServerExtensions := do
  let (number, octets) ← Extension.decode
  if found.numbers.contains number then throw (.repeatedExtension number)
  inside (do
    let found ← content { found with numbers := number :: found.numbers } number
    finish "ServerExtensions"
    return found) octets

/-- Decodes the extensions of the far end. -/
def decode : Decoder ServerExtensions := do
  through next none (← block 2)

end ServerExtensions

/-! ## What the far end wants changed -/

/-- The extensions of a request for another greeting. -/
structure RetryExtensions where
  /-- Their numbers, the last one first. -/
  numbers : List Nat
  /-- The group of which a share is wanted. -/
  group : Option Nat
  deriving DecidableEq

namespace RetryExtensions

open Decoder

/-- Whether the next greeting has to repeat something. -/
def hasCookie (extensions : RetryExtensions) : Bool :=
  extensions.numbers.contains Extension.cookie

/-- The numbers of extensions with a meaning. -/
def meaningful : List Nat :=
  [Extension.version, Extension.cookie, Extension.keyShare, Extension.hiddenGreeting]

def content (found : RetryExtensions) (number : Nat) : Decoder RetryExtensions := do
  if number = Extension.keyShare then
    return { found with group := some (← named 2 "NamedGroup") }
  else if number = Extension.cookie then
    let _cookie ← fullBlock 2 .emptyBlock
    return found
  else if number = Extension.version then
    let _version ← named 2 "ProtocolVersion"
    return found
  else
    let _content ← remainder
    return found

/-- Decodes the next extension behind those that were found. -/
def next (found : RetryExtensions) : Decoder RetryExtensions := do
  let (number, octets) ← Extension.decode
  if found.numbers.contains number then throw (.repeatedExtension number)
  if !meaningful.contains number then throw .retryExtension
  inside (do
    let found ← content { found with numbers := number :: found.numbers } number
    finish "HelloRetryRequestExtensions"
    return found) octets

/-- Decodes the extensions of a request for another greeting. -/
def decode : Decoder RetryExtensions := do
  through next ⟨[], none⟩ (← block 2)

end RetryExtensions

end Commissioner.Tls
