import Commissioner.Octets

/-!
# The relay

A relay carries octets between a client, which reads and writes a stream, and a
device, which sends and receives datagrams. Two pipes of bounded capacity lie
between the client and the relay. What the client writes goes out in datagrams of
a bounded size. What the device sends goes into the inbound pipe. While the relay
has a datagram in hand, in either direction, it does nothing else.

The relay is a transition system. Each step says what it takes for the step to
happen, and any step that can happen may be the next one. The relay ends when the
client writes no more or has let go of its stream, or when the device is gone. What
it has in hand then is lost, and what lies in the inbound pipe is still read before
the end of the stream.
-/

set_option autoImplicit false

namespace Commissioner

/-- A relay, what is on the way through it, and what went through it so far. -/
structure Relay where
  /-- The size of the largest datagram sent. -/
  maxWrite : Nat
  /-- The number of octets that each pipe holds. -/
  capacity : Nat
  /-- What the client has written and the relay has not taken. -/
  outbound : Octets
  /-- The datagram that the relay is about to send. -/
  sending : Octets
  /-- What the relay has passed on and the client has not read. -/
  inbound : Octets
  /-- What did not fit of the datagram that the relay passes on. -/
  held : Octets
  /-- The datagrams that the device has sent and the relay has not taken. -/
  arriving : List Octets
  /-- Whether the client writes no more. -/
  shut : Bool
  /-- Whether the client has let go of its stream. -/
  closed : Bool
  /-- Whether the device is gone. -/
  gone : Bool
  ended : Bool
  /-- All that was accepted from the client. -/
  accepted : Octets
  /-- All datagrams sent to the device. -/
  sent : List Octets
  /-- All datagrams taken from the device. -/
  taken : List Octets
  /-- All that the client has read. -/
  read : Octets
  deriving DecidableEq, Inhabited

namespace Relay

/-- A relay through which nothing went. Datagrams hold at least one octet. -/
def start (maxWrite capacity : Nat) : Relay :=
  ⟨max maxWrite 1, capacity, [], [], [], [], [], false, false, false, false, [], [], [], []⟩

/-- The number of octets that the relay takes of a datagram, which no datagram exceeds. -/
def maxDatagram : Nat := 65536

/-! ## Steps -/

/-- What can happen. -/
inductive Step where
  /-- The client writes some of these octets, as many as fit. -/
  | write (octets : Octets)
  /-- The client reads up to so many octets. -/
  | read (size : Nat)
  /-- The client writes no more. -/
  | shut
  /-- The client lets go of its stream. -/
  | close
  /-- The device sends a datagram. -/
  | arrive (datagram : Octets)
  /-- The device goes away. -/
  | leave
  /-- The relay takes a datagram off what the client has written. -/
  | fetch
  /-- The relay sends the datagram that it has fetched to the device. -/
  | send
  /-- The relay takes a datagram from the device. -/
  | take
  /-- The relay passes on some of the datagram at hand. -/
  | pass
  /-- The relay finds out that it is at its end. -/
  | finish
  deriving DecidableEq

/-- The number of octets that fit into a pipe holding some. -/
def room (relay : Relay) (pipe : Octets) : Nat :=
  relay.capacity - pipe.length

/-- Whether the relay is at work and has nothing in hand. -/
def isWaiting (relay : Relay) : Bool :=
  !relay.ended && relay.sending.isEmpty && relay.held.isEmpty

/-- The client writes: something has to fit. -/
def write? (relay : Relay) (octets : Octets) : Option Relay :=
  if relay.shut ∨ relay.closed ∨ relay.ended ∨ octets = [] ∨ relay.room relay.outbound = 0 then
    none
  else
    let fitting := octets.take (relay.room relay.outbound)
    some { relay with
      outbound := relay.outbound ++ fitting
      accepted := relay.accepted ++ fitting }

/-- The client reads: there has to be something, and it is asked for. -/
def read? (relay : Relay) (size : Nat) : Option Relay :=
  if relay.closed ∨ size = 0 ∨ relay.inbound = [] then none
  else
    some { relay with
      inbound := relay.inbound.drop size
      read := relay.read ++ relay.inbound.take size }

/-- The relay fetches: it waits, and the client has written something. -/
def fetch? (relay : Relay) : Option Relay :=
  if relay.isWaiting ∧ relay.outbound ≠ [] then
    some { relay with
      outbound := relay.outbound.drop relay.maxWrite
      sending := relay.outbound.take relay.maxWrite }
  else none

/-- The relay sends the datagram in hand. -/
def send? (relay : Relay) : Option Relay :=
  if relay.ended ∨ relay.gone ∨ relay.sending = [] then none
  else some { relay with sending := [], sent := relay.sent ++ [relay.sending] }

/-- The relay takes a datagram: it waits, and there is one. -/
def take? (relay : Relay) : Option Relay :=
  match relay.arriving with
  | [] => none
  | datagram :: rest =>
      if relay.isWaiting then
        let received := datagram.take maxDatagram
        some { relay with
          arriving := rest
          taken := relay.taken ++ [received]
          held := received }
      else none

/-- The relay passes on what fits of the datagram in hand. -/
def pass? (relay : Relay) : Option Relay :=
  if relay.ended ∨ relay.closed ∨ relay.held = [] ∨ relay.room relay.inbound = 0 then none
  else
    let room := relay.room relay.inbound
    some { relay with
      inbound := relay.inbound ++ relay.held.take room
      held := relay.held.drop room }

/-- Whether the relay is at its end. When it has something to pass on, that is when the
client has let go of its stream; else when the device is gone, or when the client
writes no more and everything that it wrote is sent. -/
def isAtEnd (relay : Relay) : Bool :=
  if relay.held.isEmpty then
    relay.gone ||
      ((relay.shut || relay.closed) && relay.sending.isEmpty && relay.outbound.isEmpty)
  else relay.closed

/-- The relay ends, and what it has in hand is lost. -/
def finish? (relay : Relay) : Option Relay :=
  if relay.ended ∨ ¬ relay.isAtEnd then none
  else some { relay with ended := true, sending := [], held := [] }

/-- What a step makes of a relay, if the step can happen. -/
def step? (relay : Relay) : Step → Option Relay
  | .write octets => relay.write? octets
  | .read size => relay.read? size
  | .shut => some { relay with shut := true }
  | .close => some { relay with closed := true }
  | .arrive datagram =>
      if relay.gone then none else some { relay with arriving := relay.arriving ++ [datagram] }
  | .leave => some { relay with gone := true }
  | .fetch => relay.fetch?
  | .send => relay.send?
  | .take => relay.take?
  | .pass => relay.pass?
  | .finish => relay.finish?

/-- What steps in a row make of a relay, if each of them can happen. -/
def run? (relay : Relay) : List Step → Option Relay
  | [] => some relay
  | step :: rest =>
      match relay.step? step with
      | none => none
      | some relay => relay.run? rest

/-- Whether the client is at the end of its stream. -/
def isDrained (relay : Relay) : Bool :=
  relay.ended && relay.inbound.isEmpty

/-! ## One way of running it -/

/-- Lets steps happen in a row again and again while they can, so many times at most. -/
def repeatSteps (steps : List Step) : Nat → Relay → Relay
  | 0, relay => relay
  | times + 1, relay =>
      match relay.run? steps with
      | none => relay
      | some relay => repeatSteps steps times relay

/-- Sends what the client has written. -/
def sendAll (relay : Relay) : Relay :=
  repeatSteps [.fetch, .send] relay.outbound.length relay

/-- Writes octets, as many as fit at a time, so many times at most, and sends them
in between. -/
def writeAll : Nat → Octets → Relay → Relay
  | 0, _, relay => relay
  | times + 1, octets, relay =>
      match relay.write? octets with
      | none => relay
      | some written =>
          writeAll times (octets.drop (relay.room relay.outbound)) written.sendAll

/-- The client writes octets and the relay sends them all. -/
def carryOut (relay : Relay) (octets : Octets) : Relay :=
  writeAll octets.length octets relay.sendAll

/-- Passes on the datagram in hand, so many times at most, and lets the client
read in between. -/
def passAll : Nat → Relay → Relay
  | 0, relay => relay
  | times + 1, relay =>
      match relay.pass? with
      | none => relay
      | some passed =>
          passAll times ((passed.read? passed.inbound.length).getD passed)

/-- The device sends datagrams, and the client reads what they hold. -/
def carryIn (relay : Relay) : List Octets → Relay
  | [] => relay
  | datagram :: rest =>
      let arrived := { relay with arriving := relay.arriving ++ [datagram] }
      let taken := (arrived.take?).getD arrived
      carryIn (passAll datagram.length taken) rest

/-- The device goes away, and the client writes an octet, upon which the relay
finds out. -/
def lose (relay : Relay) : Relay :=
  let relay := { relay with gone := true }
  let written := (relay.write? [0]).getD relay
  (written.step? .finish).getD written

end Relay

end Commissioner
