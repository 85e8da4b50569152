import Commissioner.Tls.Extension

/-!
# Handshake messages

A handshake is made of messages, each of which has a kind, a length and a content.
Every message is decoded as a whole, whether or not it has its turn. Only what the
client goes by is kept of it.
-/

set_option autoImplicit false

namespace Commissioner.Tls

/-! ## Kinds -/

/-- The kind of a message, known by its number. -/
structure MessageKind where
  number : Nat
  deriving DecidableEq

namespace MessageKind

/-- The greeting of a client. -/
def clientHello : MessageKind := ⟨1⟩

/-- The answer to a greeting. -/
def serverHello : MessageKind := ⟨2⟩

/-- A ticket for a later session. -/
def sessionTicket : MessageKind := ⟨4⟩

def endOfEarlyData : MessageKind := ⟨5⟩

/-- A request for another greeting, which travels as an answer to a greeting. -/
def retryRequest : MessageKind := ⟨6⟩

/-- Extensions that are not for everyone to see. -/
def encryptedExtensions : MessageKind := ⟨8⟩

def certificate : MessageKind := ⟨11⟩

/-- The far end's part of the key exchange. -/
def keyExchange : MessageKind := ⟨12⟩

/-- A request for the client's certificate. -/
def certificateRequest : MessageKind := ⟨13⟩

/-- The end of the far end's turn. -/
def helloDone : MessageKind := ⟨14⟩

/-- A proof that a certificate is one's own. -/
def certificateVerify : MessageKind := ⟨15⟩

def certificateStatus : MessageKind := ⟨22⟩

/-- A renewal of keys. -/
def keyUpdate : MessageKind := ⟨24⟩

/-- Certificates in a shorter form. -/
def compressedCertificate : MessageKind := ⟨25⟩

/-- What stands for the first greeting after a second one. It never travels. -/
def messageHash : MessageKind := ⟨254⟩

def names : List (Nat × String) :=
  [(0, "HelloRequest"), (1, "ClientHello"), (2, "ServerHello"), (3, "HelloVerifyRequest"),
    (4, "NewSessionTicket"), (5, "EndOfEarlyData"), (6, "HelloRetryRequest"),
    (8, "EncryptedExtensions"), (11, "Certificate"), (12, "ServerKeyExchange"),
    (13, "CertificateRequest"), (14, "ServerHelloDone"), (15, "CertificateVerify"),
    (16, "ClientKeyExchange"), (20, "Finished"), (21, "CertificateURL"),
    (22, "CertificateStatus"), (24, "KeyUpdate"), (25, "CompressedCertificate"),
    (254, "MessageHash")]

/-- The name of a kind, which is made of its number when it has none. -/
def title (kind : MessageKind) : String :=
  (names.lookup kind.number).getD
    ("HandshakeType(0x" ++ String.ofList (Nat.toDigits 16 kind.number) ++ ")")

end MessageKind

/-! ## Messages -/

/-- The answer to a greeting. -/
structure ServerHello where
  /-- The number of the version in its old place. -/
  version : Nat
  random : Octets
  /-- The number of the ciphers. -/
  suite : Nat
  /-- The number of the compression. -/
  compression : Nat
  extensions : ServerExtensions
  deriving DecidableEq

inductive Message where
  /-- An answer to a greeting. -/
  | serverHello (hello : ServerHello)
  /-- A request for another greeting. -/
  | retryRequest (extensions : RetryExtensions)
  /-- Extensions that are not for everyone to see. -/
  | encryptedExtensions (extensions : ServerExtensions)
  | certificates (chain : List Octets)
  /-- Certificates in the form of the newer version. -/
  | certificateEntries
  /-- The far end's part of the key exchange. -/
  | keyExchange (content : Octets)
  /-- A request for the client's certificate. -/
  | certificateRequest
  /-- A request for the client's certificate in the form of the newer version. -/
  | certificateInquiry
  | certificateStatus
  /-- The end of the far end's turn. -/
  | helloDone
  /-- A message of another kind. -/
  | other (kind : MessageKind)
  deriving DecidableEq

namespace Message

def kind : Message → MessageKind
  | serverHello _ => .serverHello
  | retryRequest _ => .retryRequest
  | encryptedExtensions _ => .encryptedExtensions
  | certificates _ => .certificate
  | certificateEntries => .certificate
  | keyExchange _ => .keyExchange
  | certificateRequest => .certificateRequest
  | certificateInquiry => .certificateRequest
  | certificateStatus => .certificateStatus
  | helloDone => .helloDone
  | other kind => kind

open Decoder

/-! ## Greetings -/

/-- The number of random octets in a greeting. -/
def randomSize : Nat := 32

/-- The random octets by which a request for another greeting is known. -/
def retryRandom : Octets :=
  [0xCF, 0x21, 0xAD, 0x74, 0xE5, 0x9A, 0x61, 0x11, 0xBE, 0x1D, 0x8C, 0x02, 0x1E, 0x65, 0xB8, 0x91,
    0xC2, 0xA2, 0x11, 0x16, 0x7A, 0xBB, 0x8C, 0x5E, 0x07, 0x9E, 0x09, 0xE2, 0xC8, 0xA8, 0x33, 0x9C]

def random : Decoder Octets :=
  exactly randomSize (.missing "Random")

/-- The largest number of octets of the name of a session. -/
def sessionSize : Nat := 32

/-- Decodes the name of a session. -/
def session : Decoder Octets := do
  let length ← number 1
  if sessionSize < length then throw (.trailing "SessionID")
  exactly length (.missing "SessionID")

/-- Decodes the rest of an answer to a greeting. -/
def answer (version : Nat) (random : Octets) : Decoder ServerHello := do
  let _session ← session
  let suite ← named 2 "CipherSuite"
  let compression ← named 1 "Compression"
  let extensions ← if ← isAtEnd then pure ServerExtensions.none else ServerExtensions.decode
  finish "ServerHelloPayload"
  return ⟨version, random, suite, compression, extensions⟩

/-- Decodes the rest of a request for another greeting. -/
def retry : Decoder RetryExtensions := do
  let _session ← session
  let _suite ← named 2 "CipherSuite"
  if (← named 1 "Compression") ≠ 0 then throw .compression
  RetryExtensions.decode

/-- Decodes an answer to a greeting, or a request for another one. -/
def decodeServerHello : Decoder Message := do
  let version ← named 2 "ProtocolVersion"
  let random ← random
  if random = retryRandom then return .retryRequest (← retry)
  return .serverHello (← answer version random)

/-- Decodes the next extension of a greeting, behind those with the numbers in
`seen`. -/
def greetingExtension (seen : List Nat) : Decoder (List Nat) := do
  let (number, _) ← Extension.decode
  if seen.contains number then throw (.repeatedExtension number)
  if number = Extension.sharedKey then
    if !(← isAtEnd) then throw .lastExtension
  return number :: seen

/-- Decodes the greeting of a client. -/
def decodeClientHello : Decoder Message := do
  let _version ← named 2 "ProtocolVersion"
  let _random ← random
  let _session ← session
  let suites ← fullBlock 2 (.emptyList "CipherSuites")
  let _suites ← items (named 2 "CipherSuite") suites
  let _compressions ← fullBlock 1 (.emptyList "Compressions")
  if !(← isAtEnd) then
    let _extensions ← through greetingExtension [] (← block 2)
  finish "ClientHelloPayload"
  return .other .clientHello

/-! ## Certificates -/

/-- The largest number of octets of a list of certificates. -/
def chainLimit : Nat := 0x10000

/-- Decodes a list of certificates. -/
def chain : Decoder (List Octets) := do
  items (block 3) (← boundedBlock 3 chainLimit .largeCertificates)

/-- Decodes certificates in the form of the newer version. -/
def decodeEntries : Decoder Message := do
  let _context ← block 1
  let entries ← boundedBlock 3 chainLimit .largeCertificates
  let _entries ← items (do
    let certificate ← block 3
    let _extensions ← Extension.decodeAny
    return certificate) entries
  return .certificateEntries

/-- Decodes a request for the client's certificate. -/
def decodeRequest : Decoder Message := do
  let _kinds ← fullBlock 1 (.emptyList "ClientCertificateTypes")
  let schemes ← fullBlock 2 .noSchemes
  let _schemes ← items (named 2 "SignatureScheme") schemes
  let names ← block 2
  let _names ← items (fullBlock 2 .emptyBlock) names
  return .certificateRequest

/-- Decodes a request for the client's certificate in the form of the newer
version. -/
def decodeInquiry : Decoder Message := do
  let _context ← block 1
  let _extensions ← Extension.decodeAny
  return .certificateInquiry

/-- Decodes the status of a certificate. -/
def decodeStatus : Decoder Message := do
  if (← named 1 "CertificateStatusType") ≠ 1 then throw .statusKind
  let _answer ← block 3
  return .certificateStatus

/-- Decodes certificates in a shorter form. -/
def decodeCompressed : Decoder Message := do
  let _algorithm ← named 2 "CertificateCompressionAlgorithm"
  let _length ← number 3
  let _content ← block 3
  return .other .compressedCertificate

/-! ## The others -/

/-- Decodes a proof that a certificate is one's own. -/
def decodeVerify : Decoder Message := do
  let _scheme ← named 2 "SignatureScheme"
  let _signature ← block 2
  return .other .certificateVerify

/-- Decodes a ticket for a later session. -/
def decodeTicket : Decoder Message := do
  let _lifetime ← number 4
  let _ticket ← block 2
  return .other .sessionTicket

/-- Decodes a ticket in the form of the newer version. -/
def decodeNewerTicket : Decoder Message := do
  let _lifetime ← number 4
  let _age ← number 4
  let _nonce ← block 1
  let _ticket ← fullBlock 2 .emptyBlock
  let _extensions ← Extension.decodeAny
  return .other .sessionTicket

/-- The number of the newer version. -/
def newerVersion : Nat := 0x0304

/-- Decodes the content of a message of a kind, in a record of the newer version
or not. -/
def content (kind : MessageKind) (newer : Bool) : Decoder Message :=
  if kind = .clientHello then decodeClientHello
  else if kind = .serverHello then decodeServerHello
  else if kind = .certificate then
    if newer then decodeEntries else return .certificates (← chain)
  else if kind = .keyExchange then return .keyExchange (← remainder)
  else if kind = .helloDone then do
    finish "ServerHelloDone"
    return .helloDone
  else if kind = .certificateRequest then
    if newer then decodeInquiry else decodeRequest
  else if kind = .compressedCertificate then decodeCompressed
  else if kind = .certificateVerify then decodeVerify
  else if kind = .sessionTicket then
    if newer then decodeNewerTicket else decodeTicket
  else if kind = .encryptedExtensions then
    return .encryptedExtensions (← ServerExtensions.decode)
  else if kind = .keyUpdate then do
    let _request ← named 1 "KeyUpdateRequest"
    return .other kind
  else if kind = .endOfEarlyData then do
    finish "EndOfEarlyData"
    return .other kind
  else if kind = .certificateStatus then decodeStatus
  else if kind = .messageHash ∨ kind = .retryRequest then throw (.neverSent kind.title)
  else do
    let _content ← remainder
    return .other kind

/-- Decodes a message of a kind with nothing behind its content. -/
def ofOctets (kind : MessageKind) (newer : Bool) (octets : Octets) : Except Corruption Message :=
  match content kind newer octets with
  | .error corruption => .error corruption
  | .ok (message, []) => .ok message
  | .ok _ => .error (.trailing "HandshakeMessagePayload")

end Message

end Commissioner.Tls
