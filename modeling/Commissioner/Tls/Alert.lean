import Commissioner.Tls.Decoder

/-!
# Alerts

An alert says how grave it is and what happened. A warning leaves the handshake
going, anything else ends it.
-/

set_option autoImplicit false

namespace Commissioner.Tls

structure Alert where
  /-- How grave it is. -/
  level : Nat
  /-- What happened. -/
  description : Nat
  deriving DecidableEq

namespace Alert

/-- Whether an alert is only a warning. -/
def isWarning (alert : Alert) : Bool :=
  alert.level = 1

/-- The description of a greeting that its sender gives up. -/
def userCanceled : Nat := 90

/-- The names of descriptions. -/
def names : List (Nat × String) :=
  [(0, "CloseNotify"), (10, "UnexpectedMessage"), (20, "BadRecordMac"),
    (21, "DecryptionFailed"), (22, "RecordOverflow"), (30, "DecompressionFailure"),
    (40, "HandshakeFailure"), (41, "NoCertificate"), (42, "BadCertificate"),
    (43, "UnsupportedCertificate"), (44, "CertificateRevoked"), (45, "CertificateExpired"),
    (46, "CertificateUnknown"), (47, "IllegalParameter"), (48, "UnknownCA"),
    (49, "AccessDenied"), (50, "DecodeError"), (51, "DecryptError"), (60, "ExportRestriction"),
    (70, "ProtocolVersion"), (71, "InsufficientSecurity"), (80, "InternalError"),
    (86, "InappropriateFallback"), (90, "UserCanceled"), (100, "NoRenegotiation"),
    (109, "MissingExtension"), (110, "UnsupportedExtension"), (111, "CertificateUnobtainable"),
    (112, "UnrecognisedName"), (113, "BadCertificateStatusResponse"),
    (114, "BadCertificateHashValue"), (115, "UnknownPSKIdentity"), (116, "CertificateRequired"),
    (120, "NoApplicationProtocol"), (121, "EncryptedClientHelloRequired")]

/-- The hexadecimal spelling of a number. -/
def hexadecimal (n : Nat) : String :=
  "0x" ++ String.ofList (Nat.toDigits 16 n)

/-- The name of a description, which is made of its number when it has none. -/
def title (description : Nat) : String :=
  (names.lookup description).getD ("AlertDescription(" ++ hexadecimal description ++ ")")

/-- Decodes an alert, behind which nothing may come. -/
def decode : Decoder Alert := do
  let level ← Decoder.named 1 "AlertLevel"
  let description ← Decoder.named 1 "AlertDescription"
  Decoder.finish "AlertMessagePayload"
  return ⟨level, description⟩

end Alert

end Commissioner.Tls
