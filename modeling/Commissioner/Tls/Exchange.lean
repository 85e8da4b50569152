import Commissioner.Tls.Flaw
import Commissioner.Tls.Greeting
import Commissioner.Tls.Joining

/-!
# The exchange of a handshake

The client has sent its greeting and follows the answer, octet by octet as it
comes. It holds what a record or a message lacks an end of, and what it has agreed
to so far decides what may come next. The random octets of the client are part of
what the far end has to sign and to hide, and no answer that is given beforehand
can know them: with the newer version nothing can be deciphered after the answer to
the greeting, and with the older one no signature is right. So an exchange can only
go on or fail.
-/

set_option autoImplicit false

namespace Commissioner.Tls

/-! ## The state -/

/-- The far end's part of the key exchange, as far as it is checked. -/
structure KeyExchange where
  /-- The way of signing. -/
  scheme : SignatureScheme
  deriving DecidableEq

/-- What the client waits for. -/
inductive Stage where
  /-- An answer to its greeting. -/
  | hello
  /-- The extensions that belong under cover. -/
  | extensions
  /-- The certificates of the newer version, or a request for the client's. -/
  | entries
  /-- What takes the keys of the handshake. -/
  | covered
  /-- The certificates of the older version; their status is promised or not. -/
  | certificates (suite : Suite) (promised : Bool)
  /-- The key exchange; the status of the certificates may come before it or not. -/
  | keyExchange (suite : Suite) (chain : List Octets) (mayHaveStatus : Bool)
  /-- The end of the turn, or a request for the client's certificate. -/
  | request (suite : Suite) (chain : List Octets) (exchange : KeyExchange)
  /-- The end of the turn. -/
  | done (suite : Suite) (chain : List Octets) (exchange : KeyExchange)
  deriving DecidableEq

structure Exchange where
  /-- The name that is asked for. -/
  name : ServerName
  /-- The authorities that are trusted. -/
  authorities : List Authority
  /-- What the client waits for. -/
  stage : Stage
  /-- Whether the newer version is chosen. -/
  isNewer : Bool
  /-- What has come of a message that is not whole. -/
  joining : Joining
  /-- The number of octets of the records that are held for it. -/
  held : Nat
  /-- What has come of a record that is not whole. -/
  unread : Octets
  /-- How often the far end has warned. -/
  warnings : Nat
  /-- How often the far end has changed its ciphers to no effect. -/
  changes : Nat
  /-- The number of octets that the client has to send before it reads on. -/
  owed : Nat
  deriving DecidableEq

namespace Exchange

/-- The exchange behind a greeting, which is still to be sent. -/
def start (name : ServerName) (authorities : List Authority) : Exchange where
  name := name
  authorities := authorities
  stage := .hello
  isNewer := false
  joining := .nothing
  held := 0
  unread := []
  warnings := 0
  changes := 0
  owed := Greeting.size name

/-! ## The answer to the greeting -/

/-- The number of the older version. -/
def olderVersion : Nat := 0x0303

/-- Whether the newer version is chosen. It is chosen by an extension, and the old
place of the version then tells the older one. -/
def chosen (hello : ServerHello) : Except Flaw Bool :=
  let version :=
    if hello.version = olderVersion then hello.extensions.version.getD hello.version
    else hello.version
  if version = Message.newerVersion then .ok true
  else if version = olderVersion then
    if hello.extensions.version.isSome then .error (.misbehaved .olderVersionAsNewer)
    else .ok false
  else .error .version

/-- The suite that is chosen, which has to be one of the version. -/
def chosenSuite (hello : ServerHello) (isNewer : Bool) : Except Flaw Suite :=
  match Suite.ofNumber? hello.suite with
  | none => .error (.misbehaved .unofferedSuite)
  | some suite =>
      if (suite = .newer) ↔ isNewer then .ok suite else .error (.misbehaved .suiteOfOtherVersion)

/-- The numbers of the extensions that an answer of the newer version may show in
the open. -/
def openExtensions : List Nat :=
  [Extension.keyShare, Extension.sharedKey, Extension.version]

/-- Accepts an answer that chooses the newer version. -/
def acceptNewer (exchange : Exchange) (extensions : ServerExtensions) (isAligned : Bool) :
    Except Flaw Exchange := do
  if extensions.numbers.any fun number =>
      ServerExtensions.meaningful.contains number && !openExtensions.contains number then
    throw (.misbehaved .openExtension)
  match extensions.share with
  | none => throw (.misbehaved .noKeyShare)
  | some share =>
      if share.group ≠ KeyShare.offeredGroup then throw (.misbehaved .otherGroup)
      if !share.isUsable then throw (.misbehaved .keyShare)
      if !isAligned then throw (.misbehaved .pendingFragment)
      return { exchange with stage := .extensions, isNewer := true, owed := Greeting.changeSize }

/-- The end of the random octets of a far end that would choose the newer version,
if the greeting it has got offered it. -/
def downgradeMark : Octets :=
  [0x44, 0x4F, 0x57, 0x4E, 0x47, 0x52, 0x44, 0x01]

/-- Accepts an answer that chooses the older version. -/
def acceptOlder (exchange : Exchange) (hello : ServerHello) (suite : Suite) :
    Except Flaw Exchange := do
  if hello.random.drop 24 = downgradeMark then throw (.misbehaved .downgrade)
  let promised := hello.extensions.numbers.contains Extension.statusRequest
  return { exchange with stage := .certificates suite promised }

/-- Accepts an answer to the greeting. -/
def acceptHello (exchange : Exchange) (hello : ServerHello) (isAligned : Bool) :
    Except Flaw Exchange := do
  let isNewer ← chosen hello
  if hello.compression ≠ 0 then throw (.misbehaved .compression)
  if hello.extensions.numbers.any fun number =>
      !Greeting.offers exchange.name number && number ≠ Extension.renegotiation then
    throw (.misbehaved .unofferedExtension)
  if hello.extensions.fullPoints = some false then throw (.misbehaved .noFullPoints)
  let suite ← chosenSuite hello isNewer
  if isNewer then exchange.acceptNewer hello.extensions isAligned
  else exchange.acceptOlder hello suite

/-- What is wrong with a request for another greeting. Nobody can know the session
that the client has named. -/
def retryFlaw (extensions : RetryExtensions) (isAligned : Bool) : Misbehaviour :=
  if !isAligned then .pendingFragment
  else if extensions.hasCookie then .retryOtherSession
  else
    match extensions.group with
    | none => .retryNoChanges
    | some group =>
        if group = KeyShare.offeredGroup then .retryOfferedGroup else .retryOtherSession

/-! ## What belongs under cover -/

/-- The numbers of the extensions that do not belong under cover. -/
def uncoveredExtensions : List Nat :=
  openExtensions ++
    [Extension.pointFormats, Extension.sessionTicket, Extension.renegotiation,
      Extension.extendedSecret]

/-- Accepts the extensions that belong under cover. -/
def acceptExtensions (exchange : Exchange) (extensions : ServerExtensions) :
    Except Flaw Exchange := do
  if extensions.numbers.any fun number => !Greeting.offers exchange.name number then
    throw (.misbehaved .unofferedCovered)
  if extensions.numbers.any uncoveredExtensions.contains then
    throw (.misbehaved .disallowedCovered)
  return { exchange with stage := .entries }

/-! ## The key exchange and the end of the turn -/

/-- Decodes the far end's part of the key exchange: a group, a share, and a
signature. -/
def decodeKeyExchange : Decoder KeyExchange := do
  if (← Decoder.named 1 "ECCurveType") ≠ 3 then throw .keyExchange
  let _group ← Decoder.named 2 "NamedGroup"
  let _share ← Decoder.fullBlock 1 .emptyBlock
  let scheme ← Decoder.named 2 "SignatureScheme"
  let _signature ← Decoder.block 2
  Decoder.finish "ServerKeyExchange"
  return ⟨⟨scheme⟩⟩

/-- The key exchange that octets spell. In what way they are corrupt does not
count. -/
def keyExchangeOf (octets : Octets) : Except Flaw KeyExchange :=
  match decodeKeyExchange octets with
  | .ok (exchange, _) => .ok exchange
  | .error _ => .error (.corrupt .keyExchange)

/-- What is wrong at the end of the turn. A signature that can be checked is not
right, for it does not cover the random octets of the client. -/
def turnFlaw (exchange : Exchange) (suite : Suite) (chain : List Octets) (keys : KeyExchange)
    (isAligned : Bool) : Flaw :=
  if !isAligned then .misbehaved .pendingFragment
  else
    match chain with
    | [] => .noCertificate
    | own :: others =>
        match Trust.check exchange.authorities exchange.name own others with
        | .error flaw => .untrusted flaw
        | .ok certificate =>
            if !keys.scheme.isFor suite then .misbehaved .signatureOfOtherSuite
            else if !keys.scheme.isOffered then .misbehaved .unofferedScheme
            else
              match Element.Reader.whole Signature.keyParts () certificate.publicKey with
              | .error () => .untrusted Trust.malformed
              | .ok (kind, _) =>
                  if keys.scheme.keyKinds.contains kind then .untrusted .signature
                  else .untrusted (.otherKey keys.scheme.algorithm kind)

/-! ## Messages -/

/-- The kinds of message that a stage awaits. -/
def awaited : Stage → List MessageKind
  | .hello => [.serverHello, .retryRequest]
  | .extensions => [.encryptedExtensions]
  | .entries => [.certificate, .certificateRequest]
  | .covered => []
  | .certificates _ _ => [.certificate]
  | .keyExchange _ _ mayHaveStatus =>
      if mayHaveStatus then [.keyExchange, .certificateStatus] else [.keyExchange]
  | .request _ _ _ => [.helloDone]
  | .done _ _ _ => [.helloDone]

/-- Takes a message, where `isAligned` says whether the record ends with a
message. -/
def takeMessage (exchange : Exchange) (isAligned : Bool) (message : Message) :
    Except Flaw Exchange :=
  match exchange.stage, message with
  | .hello, .serverHello hello => exchange.acceptHello hello isAligned
  | .hello, .retryRequest extensions => .error (.misbehaved (retryFlaw extensions isAligned))
  | .extensions, .encryptedExtensions extensions => exchange.acceptExtensions extensions
  | .entries, .certificateEntries => .ok { exchange with stage := .covered }
  | .entries, .certificateInquiry => .ok { exchange with stage := .covered }
  | .covered, _ => .ok exchange
  | .certificates suite promised, .certificates chain =>
      .ok { exchange with stage := .keyExchange suite chain promised }
  | .keyExchange suite chain true, .certificateStatus =>
      .ok { exchange with stage := .keyExchange suite chain false }
  | .keyExchange suite chain _, .keyExchange content =>
      match keyExchangeOf content with
      | .error flaw => .error flaw
      | .ok keys => .ok { exchange with stage := .request suite chain keys }
  | .request suite chain keys, .certificateRequest =>
      .ok { exchange with stage := .done suite chain keys }
  | .request suite chain keys, .helloDone =>
      .error (exchange.turnFlaw suite chain keys isAligned)
  | .done suite chain keys, .helloDone => .error (exchange.turnFlaw suite chain keys isAligned)
  | stage, message => .error (.unexpectedMessage message.kind (awaited stage))

/-- Decodes and takes a message of a version. -/
def takeRaw (isAligned : Bool) (version : Nat) (exchange : Exchange) (raw : RawMessage) :
    Except Flaw Exchange :=
  match Message.ofOctets ⟨raw.kind⟩ (version = Message.newerVersion) raw.content with
  | .error corruption => .error (.corrupt corruption)
  | .ok message => exchange.takeMessage isAligned message

/-! ## Records -/

/-- Takes a record of handshake messages: the messages that it makes whole have
their turn before the next record. -/
def takeHandshake (exchange : Exchange) (record : Record) : Except Flaw Exchange :=
  match exchange.joining.add record with
  | .error corruption => .error (.corrupt corruption)
  | .ok (messages, version, joining) =>
      let held :=
        if joining.isAligned then 0
        else exchange.held + Record.headSize + record.content.length
      messages.foldlM (takeRaw joining.isAligned version)
        { exchange with joining := joining, held := held }

/-- How often the far end may warn. -/
def warningLimit : Nat := 4

/-- Takes a record with an alert. -/
def takeAlert (exchange : Exchange) (content : Octets) : Except Flaw Exchange :=
  match Alert.decode content with
  | .error corruption => .error (.corrupt corruption)
  | .ok (alert, _) =>
      if alert.isWarning then
        if warningLimit ≤ exchange.warnings then .error (.misbehaved .manyWarnings)
        else if exchange.isNewer ∧ alert.description ≠ Alert.userCanceled then
          .error (.alert alert.description)
        else .ok { exchange with warnings := exchange.warnings + 1 }
      else .error (.alert alert.description)

/-- How often the far end may change its ciphers to no effect. -/
def changeLimit : Nat := 2

/-- Takes a record with a change of ciphers, which means nothing in the newer
version and has not its turn in the older one. -/
def takeChange (exchange : Exchange) (content : Octets) : Except Flaw Exchange :=
  if exchange.isNewer then
    if content ≠ [1] ∨ changeLimit ≤ exchange.changes then .error (.misbehaved .cipherChange)
    else .ok { exchange with changes := exchange.changes + 1 }
  else
    match content with
    | [1] => .error (.unexpectedRecord .changeCipherSpec)
    | 1 :: _ => .error (.corrupt (.trailing "ChangeCipherSpecPayload"))
    | _ => .error (.corrupt .cipherChange)

/-- Whether a record may come in the open when the newer version is chosen. -/
def mayBeOpen (record : Record) : Bool :=
  match record.kind with
  | .changeCipherSpec => true
  | .alert => record.content.length ≤ 2
  | _ => false

/-- Takes a record. -/
def takeRecord (exchange : Exchange) (record : Record) : Except Flaw Exchange :=
  if exchange.isNewer && !mayBeOpen record then .error .undecipherable
  else if !exchange.joining.isAligned && record.kind ≠ .handshake then
    .error (.misbehaved .interleaved)
  else
    match record.kind with
    | .handshake => exchange.takeHandshake record
    | .alert => exchange.takeAlert record.content
    | .changeCipherSpec => exchange.takeChange record.content
    | .applicationData => .error (.unexpectedRecord .applicationData)
    | .heartbeat => .error (.corrupt .recordKind)

/-- Takes the records at the front of octets, and keeps what is left. -/
def takeRecords (exchange : Exchange) (octets : Octets) : Except Flaw Exchange :=
  match _found : Record.next? octets with
  | .error corruption => .error (.corrupt corruption)
  | .ok none => .ok { exchange with unread := octets }
  | .ok (some (record, rest)) =>
      match exchange.takeRecord record with
      | .error flaw => .error flaw
      | .ok exchange => exchange.takeRecords rest
termination_by octets.length
decreasing_by exact Record.length_next? _found

/-! ## Reading and writing -/

/-- Takes octets behind those that have come before. -/
def hear (exchange : Exchange) (octets : Octets) : Except Flaw Exchange :=
  exchange.takeRecords (exchange.unread ++ octets)

/-- The exchange once the client has sent what it owes. -/
def settled (exchange : Exchange) : Exchange :=
  { exchange with owed := 0 }

/-- The number of octets that are held while a message is joined. -/
def weight (exchange : Exchange) : Nat :=
  exchange.held + exchange.unread.length

/-- The number of octets that may be held while a message is joined. -/
def weightLimit : Nat := 0xFFFF

/-- Whether no more octets can be held, though a message lacks its end. -/
def isFull (exchange : Exchange) : Bool :=
  !exchange.joining.isAligned && weightLimit ≤ exchange.weight

/-- The number of octets that a read asks for, unless there is less room. -/
def readSize : Nat := 4096

/-- One less than the number of octets that the next read asks for. -/
def nextRead (exchange : Exchange) : Nat :=
  if exchange.joining.isAligned then readSize - 1
  else min readSize (weightLimit - exchange.weight) - 1

end Exchange

end Commissioner.Tls
