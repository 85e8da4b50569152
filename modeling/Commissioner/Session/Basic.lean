import Commissioner.Duration
import Commissioner.Link.Script
import Commissioner.Peer
import Commissioner.Session.Handshake
import Commissioner.Tlv.Framing

/-!
# Sessions

A session is a channel to one device that opens in order: credentials are
loaded, a handshake is carried out, records are exchanged, and the session is
closed for good. Octets that arrive ahead of what was asked for stay in the
session's buffer for the next reading.
-/

set_option autoImplicit false

namespace Commissioner

/-! ## Phases -/

/-- The phases of a session, in the only order in which it passes through them. -/
inductive Phase where
  | uninitialized
  | handshaking
  | established
  | closed
  deriving DecidableEq, Inhabited

namespace Phase

/-- The name of a phase in messages. -/
def name : Phase → String
  | .uninitialized => "uninitialized"
  | .handshaking => "handshaking"
  | .established => "established"
  | .closed => "closed"

/-- The name of a phase in descriptions. -/
def title : Phase → String
  | .uninitialized => "Uninitialized"
  | .handshaking => "Handshaking"
  | .established => "Established"
  | .closed => "Closed"

end Phase

/-! ## Limits -/

/-- The bounds that a session keeps, with times in milliseconds. -/
structure Limits where
  /-- The longest handshake. -/
  handshakeTimeout : Nat
  /-- The longest wait for an answer; without a bound the wait goes on to the end
  of the stream. -/
  responseTimeout : Option Nat
  /-- The size of a read while waiting for an answer. -/
  readSize : Nat
  /-- The longest value taken from the device. -/
  maxValue : Nat
  deriving DecidableEq

namespace Limits

/-- The bounds unless others are asked for. -/
def default : Limits :=
  ⟨30000, none, 4096, maxValueLength⟩

instance : Inhabited Limits := ⟨default⟩

/-- The bounds in words. -/
def describe (limits : Limits) : String :=
  "SessionConfig \x7b handshake_timeout: " ++ Duration.text limits.handshakeTimeout
    ++ ", response_timeout: " ++ Duration.optionText limits.responseTimeout
    ++ ", read_chunk_size: " ++ toString limits.readSize
    ++ ", max_value_len: " ++ toString limits.maxValue ++ " \x7d"

end Limits

/-! ## Why an operation fails -/

/-- Why an operation of a session fails. -/
inductive SessionError where
  /-- The link could not be opened. -/
  | transport (error : TransportError)
  /-- Reading or writing failed. -/
  | fault (fault : Fault)
  /-- The octets do not go on as records, or a record does not fit. -/
  | framing (error : Framing.Error)
  /-- The credentials are missing or of no use. -/
  | credentials (reason : String)
  /-- The handshake failed or took too long. -/
  | handshakeFailed (reason : String)
  | closed
  /-- The operation belongs to another phase. -/
  | wrongPhase (expected found : Phase)
  deriving DecidableEq

/-- The reason in words. -/
def SessionError.message : SessionError → String
  | .transport error => "transport error: " ++ error.message
  | .fault cause => "I/O error: " ++ cause.message
  | .framing error => "record error: " ++ error.message
  | .credentials reason => "credentials: " ++ reason
  | .handshakeFailed reason => "handshake failed: " ++ reason
  | .closed => "session closed"
  | .wrongPhase expected found =>
      "invalid session state: expected " ++ expected.name ++ ", found " ++ found.name

/-! ## The session -/

/-- A channel to one device. -/
structure Session where
  phase : Phase
  /-- The link, while the session holds one. -/
  link : Option Link
  /-- The handshake to carry out, once credentials are loaded. -/
  handshake : Option Handshake
  /-- The octets delivered and not yet read as records. -/
  received : Octets
  /-- The bounds that it keeps. -/
  limits : Limits
  /-- Whether a request was begun and not finished. -/
  unfinished : Bool
  deriving Inhabited

namespace Session

/-- A new session over a link. -/
def onLink (link : Link) (limits : Limits) : Session :=
  ⟨.uninitialized, some link, none, [], limits, false⟩

/-- The framing of the session's records. -/
def framing (session : Session) : Framing :=
  Framing.ofLimit session.limits.maxValue

/-- Whether records can be exchanged. -/
def isEstablished (session : Session) : Bool :=
  session.phase = .established

def isClosed (session : Session) : Bool :=
  session.phase = .closed

/-- The error of an operation that belongs to another phase than the present one. -/
def expect (session : Session) (expected : Phase) : Except SessionError Unit :=
  if session.phase = expected then .ok ()
  else if session.phase = .closed then .error .closed
  else .error (.wrongPhase expected session.phase)

/-- Takes credentials, with which the handshake can begin. -/
def load (session : Session) (handshake : Handshake) : Except SessionError Session :=
  match session.expect .uninitialized with
  | .error error => .error error
  | .ok () => .ok { session with phase := .handshaking, handshake := some handshake }

/-- The session in words. -/
def describe (session : Session) : String :=
  "SecureSession \x7b state: " ++ session.phase.title
    ++ ", buffered: " ++ toString session.received.length
    ++ ", unfinished_exchange: " ++ toString session.unfinished
    ++ ", config: " ++ session.limits.describe ++ " \x7d"

end Session

end Commissioner
