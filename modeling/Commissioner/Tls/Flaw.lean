import Commissioner.Tls.Alert
import Commissioner.Tls.Message
import Commissioner.Tls.Record
import Commissioner.Tls.Trust

/-!
# Flaws of an answer

A handshake fails because the octets that come are corrupt, because a message has
not its turn, because the far end gives up, because it chooses what it may not
choose, or because it is not trusted.
-/

set_option autoImplicit false

namespace Commissioner.Tls

/-- What the far end does that it may not do. -/
inductive Misbehaviour where
  /-- It warns too often. -/
  | manyWarnings
  /-- A record of another kind comes in the middle of a handshake message. -/
  | interleaved
  /-- A change of ciphers comes that means nothing. -/
  | cipherChange
  /-- A message goes on in the next record where the keys change. -/
  | pendingFragment
  /-- It asks for another greeting with the share that was offered. -/
  | retryOfferedGroup
  /-- It asks for another greeting without a change. -/
  | retryNoChanges
  /-- It asks for another greeting in another session. -/
  | retryOtherSession
  /-- It chooses the older version in the place of the newer one. -/
  | olderVersionAsNewer
  /-- It chooses a compression. -/
  | compression
  /-- It answers with an extension that was not offered. -/
  | unofferedExtension
  /-- It does not take points that are written in full. -/
  | noFullPoints
  /-- It chooses ciphers that were not offered. -/
  | unofferedSuite
  /-- It chooses ciphers of the other version. -/
  | suiteOfOtherVersion
  /-- It answers in the open with an extension that belongs under cover. -/
  | openExtension
  /-- It leaves out its share of the key exchange. -/
  | noKeyShare
  /-- Its share is of another group than the client's. -/
  | otherGroup
  /-- Its share cannot be used. -/
  | keyShare
  /-- It says that it was made to choose the older version. -/
  | downgrade
  /-- It answers under cover with an extension that was not offered. -/
  | unofferedCovered
  /-- It answers under cover with an extension that does not belong there. -/
  | disallowedCovered
  /-- It signs in a way that the ciphers do not go with. -/
  | signatureOfOtherSuite
  /-- It signs in a way that was not offered. -/
  | unofferedScheme
  deriving DecidableEq

namespace Misbehaviour

/-- The name of a misbehaviour. -/
def title : Misbehaviour → String
  | manyWarnings => "TooManyWarningAlertsReceived"
  | interleaved => "MessageInterleavedWithHandshakeMessage"
  | cipherChange => "IllegalMiddleboxChangeCipherSpec"
  | pendingFragment => "KeyEpochWithPendingFragment"
  | retryOfferedGroup => "IllegalHelloRetryRequestWithOfferedGroup"
  | retryNoChanges => "IllegalHelloRetryRequestWithNoChanges"
  | retryOtherSession => "IllegalHelloRetryRequestWithWrongSessionId"
  | olderVersionAsNewer => "SelectedTls12UsingTls13VersionExtension"
  | compression => "SelectedUnofferedCompression"
  | unofferedExtension => "UnsolicitedServerHelloExtension"
  | noFullPoints => "ServerHelloMustOfferUncompressedEcPoints"
  | unofferedSuite => "SelectedUnofferedCipherSuite"
  | suiteOfOtherVersion => "SelectedUnusableCipherSuiteForVersion"
  | openExtension => "UnexpectedCleartextExtension"
  | noKeyShare => "MissingKeyShare"
  | otherGroup => "WrongGroupForKeyShare"
  | keyShare => "InvalidKeyShare"
  | downgrade => "AttemptedDowngradeToTls12WhenTls13IsSupported"
  | unofferedCovered => "UnsolicitedEncryptedExtension"
  | disallowedCovered => "DisallowedEncryptedExtension"
  | signatureOfOtherSuite => "SignedKxWithWrongAlgorithm"
  | unofferedScheme => "SignedHandshakeWithUnadvertisedSigScheme"

end Misbehaviour

/-- Why a handshake fails. -/
inductive Flaw where
  /-- The octets are corrupt. -/
  | corrupt (corruption : Corruption)
  /-- The far end gives up, with an alert of this description. -/
  | alert (description : Nat)
  /-- A record of a kind comes in place of a handshake message. -/
  | unexpectedRecord (kind : ContentType)
  /-- A message comes in place of one of others. -/
  | unexpectedMessage (got : MessageKind) (awaited : List MessageKind)
  /-- The far end does what it may not do. -/
  | misbehaved (misbehaviour : Misbehaviour)
  /-- The far end chooses a version that was not offered. -/
  | version
  /-- A record was not made with the keys of the handshake. -/
  | undecipherable
  /-- The far end shows no certificate. -/
  | noCertificate
  /-- The certificate of the far end is not trusted. -/
  | untrusted (flaw : Trust.Flaw)
  deriving DecidableEq

/-- The flaw in words. -/
def Flaw.message : Flaw → String
  | corrupt corruption => "received corrupt message of type " ++ corruption.title
  | alert description => "received fatal alert: " ++ Alert.title description
  | unexpectedRecord kind =>
      "received unexpected message: got " ++ kind.title ++ " when expecting Handshake"
  | unexpectedMessage got awaited =>
      "received unexpected handshake message: got " ++ got.title ++ " when expecting "
        ++ " or ".intercalate (awaited.map (·.title))
  | misbehaved misbehaviour => "peer misbehaved: " ++ misbehaviour.title
  | version => "peer is incompatible: ServerDoesNotSupportTls12Or13"
  | undecipherable => "cannot decrypt peer's message"
  | noCertificate => "peer sent no certificates"
  | untrusted flaw => flaw.message

end Commissioner.Tls
