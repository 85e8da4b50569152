import Commissioner.Command.Registry
import Commissioner.Console.Prompt
import Commissioner.Dataset
import Commissioner.Render
import Commissioner.Session.Conversation

/-!
# The client

A client holds at most one session and the dataset to commission with, and works
in surroundings that it does not control: what searches find, how links open,
which credentials there are, and what the user does. Only a scan makes another
session current, and only the dataset commands change the dataset.
-/

set_option autoImplicit false

namespace Commissioner

/-! ## Why a command fails -/

/-- Why a command fails. -/
inductive CommandError where
  /-- There is no such command. -/
  | unknownCommand (name : String)
  /-- There is no established session. -/
  | notConnected
  /-- The arguments are not those of the command. -/
  | usage (form : String)
  /-- The session fails. -/
  | session (error : SessionError)
  /-- The search fails. -/
  | transport (error : TransportError)
  /-- The dataset is none. -/
  | dataset (error : DatasetError)
  /-- The console cannot be read. -/
  | fault (fault : Fault)
  deriving DecidableEq

/-- The reason in words. -/
def CommandError.message : CommandError → String
  | .unknownCommand name => "unknown command: " ++ name
  | .notConnected => "not connected to a device; run 'scan' first"
  | .usage form => "usage: " ++ form
  | .session error => error.message
  | .transport error => error.message
  | .dataset error => error.message
  | .fault cause => "console error: " ++ cause.message

/-- What a command hands back to be shown. -/
inductive Outcome where
  /-- Nothing. -/
  | none
  | record (record : Tlv)
  deriving DecidableEq, Inhabited

/-- The outcome of a request, which is nothing when the device did not answer. -/
def Outcome.ofAnswer : Option Tlv → Outcome
  | some answer => .record answer
  | Option.none => .none

/-! ## Settings and surroundings -/

/-- What holds for every command. -/
structure Settings where
  /-- The name that a device has to bear. -/
  serverName : String
  /-- The bounds of sessions. -/
  limits : Limits
  /-- The size of a read while a batch is gathered. -/
  batchSize : Nat
  /-- The longest wait for a batch, in milliseconds. -/
  batchTimeout : Nat
  /-- The format in which records are shown. -/
  format : Format

/-- The settings unless others are asked for. -/
def Settings.default : Settings :=
  ⟨"DeviceType", Limits.default, 4096, 15000, .pretty⟩

instance : Inhabited Settings := ⟨Settings.default⟩

/-- Something that takes time and then comes out well or not. -/
structure Attempt (α : Type) where
  /-- The time that it takes, if it ever ends. -/
  delay : Option Nat
  /-- What comes out. -/
  result : Except TransportError α

/-- What a client finds around it. Of each kind the next one is used each time,
and the last one again and again. -/
structure Surroundings where
  /-- What searches find. -/
  searches : List (Attempt (List Peer))
  /-- How links open. -/
  openings : List (Attempt Script)
  /-- The credentials there are, or why there are none. -/
  credentials : List (Except SessionError Handshake)
  /-- When the user interrupts a command, counted from its beginning. -/
  interrupts : List (Option Nat)

instance : Inhabited Surroundings := ⟨⟨[], [], [], []⟩⟩

/-- What is used now and what is left for later. The last one is never used up. -/
def takeTurn {α : Type} : List α → Option α × List α
  | [] => (none, [])
  | [last] => (some last, [last])
  | next :: rest => (some next, rest)

/-! ## The client -/

structure Client (α : Type) where
  /-- The current session, if there is one. -/
  session : Option Session
  /-- The dataset to commission with. -/
  dataset : Dataset
  /-- The commands. -/
  registry : Registry α
  settings : Settings
  /-- Whether the user asked to leave. -/
  exitRequested : Bool
  /-- What the client finds around it. -/
  surroundings : Surroundings
  /-- The number of links opened so far. -/
  opened : Nat
  /-- What the user will do. -/
  inputs : List Input
  timeline : Timeline
  deriving Inhabited

namespace Client

variable {α β : Type}

/-- A client at the beginning of time. -/
def start (registry : Registry α) (settings : Settings) (surroundings : Surroundings)
    (inputs : List Input) : Client α :=
  ⟨none, Dataset.builtIn, registry, settings, false, surroundings, 0, inputs, Timeline.start⟩

/-- Whether there is an established session. -/
def isConnected (client : Client α) : Bool :=
  match client.session with
  | some session => session.isEstablished
  | none => false

/-! ## Acts on a part of the client -/

/-- An act at the terminal. -/
def atTerminal (act : Act Terminal β) : Act (Client α) β := fun limit client =>
  match act limit ⟨client.inputs, client.timeline⟩ with
  | (value, terminal) =>
      (value, { client with inputs := terminal.inputs, timeline := terminal.timeline })

def print (line : String) : Act (Client α) Unit :=
  atTerminal (Terminal.print line)

/-- An act on a session of its own, which is handed back with the value. -/
def onSession (session : Session) (act : Act Conversation β) : Act (Client α) (β × Session) :=
  fun limit client =>
    match act limit ⟨session, client.timeline⟩ with
    | (some value, talk) => (some (value, talk.session), { client with timeline := talk.timeline })
    | (none, talk) => (none, { client with timeline := talk.timeline })

/-- An act on the current session, if it is established. -/
def onCurrent (act : Act Conversation (Except SessionError β)) :
    Act (Client α) (Except CommandError β) := fun limit client =>
  match client.session with
  | some session =>
      if session.isEstablished then
        match act limit ⟨session, client.timeline⟩ with
        | (value, talk) =>
            (value.map fun result => result.mapError CommandError.session,
              { client with session := some talk.session, timeline := talk.timeline })
      else (some (.error .notConnected), client)
  | none => (some (.error .notConnected), client)

/-! ## The current session -/

/-- Closes the current session, if there is one, and lets it go. It leaves the
client before the wait. -/
def invalidate : Act (Client α) Unit := fun limit client =>
  match client.session with
  | none => (some (), client)
  | some session =>
      match Conversation.close limit ⟨session, client.timeline⟩ with
      | (value, talk) => (value, { client with session := none, timeline := talk.timeline })

/-- Makes a session current, in place of the one before. -/
def install (session : Session) : Act (Client α) Unit := do
  invalidate
  Act.change fun client => { client with session := some session }

/-- Lets go of a session that is closed, and tells whether there was one. -/
def discardClosed : Act (Client α) Bool :=
  Act.exchange fun client =>
    match client.session with
    | some session => if session.isClosed then (true, { client with session := none })
        else (false, client)
    | none => (false, client)

/-- Closes and lets go of a session with an unfinished request, and tells whether
there was one. -/
def discardUnfinished : Act (Client α) Bool := do
  let client ← Act.state
  match client.session with
  | some session =>
      if session.unfinished then
        invalidate
        return true
      else return false
  | none => return false

/-! ## The surroundings -/

/-- Waits for an attempt to come out. -/
def await (attempt : Attempt β) : Act (Client α) (Except TransportError β) := fun limit client =>
  match client.timeline.wait (attempt.delay.map (client.timeline.now + ·)) none limit with
  | (.ready, timeline) => (some attempt.result, { client with timeline := timeline })
  | (_, timeline) => (none, { client with timeline := timeline })

/-- Searches for devices. -/
def search : Act (Client α) (Except TransportError (List Peer)) := do
  let attempt ← Act.exchange fun client =>
    let (attempt, searches) := takeTurn client.surroundings.searches
    (attempt.getD ⟨some 0, .ok []⟩,
      { client with
        surroundings := { client.surroundings with searches := searches }
        timeline := client.timeline.note .discovering })
  await attempt

/-- Opens a link to a device. Links are numbered in the order in which they open. -/
def openLink (peer : Peer) : Act (Client α) (Except TransportError Link) := do
  let attempt ← Act.exchange fun client =>
    let (attempt, openings) := takeTurn client.surroundings.openings
    (attempt.getD ⟨some 0, .ok Script.silent⟩,
      { client with
        surroundings := { client.surroundings with openings := openings }
        timeline := client.timeline.note (.opening peer.address) })
  match ← await attempt with
  | .error error => return .error error
  | .ok far =>
      Act.exchange fun client =>
        let link : Link := ⟨client.opened + 1, far⟩
        (.ok link,
          { client with
            opened := link.id
            timeline := client.timeline.note (.opened link.id) })

/-- Takes the credentials that there are. -/
def takeCredentials : Act (Client α) (Except SessionError Handshake) :=
  Act.exchange fun client =>
    let (credentials, rest) := takeTurn client.surroundings.credentials
    (credentials.getD (.ok (.settled (some 0) .accept)),
      { client with surroundings := { client.surroundings with credentials := rest } })

end Client

end Commissioner
