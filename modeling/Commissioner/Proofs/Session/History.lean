import Commissioner.Session.Conversation

/-!
# Histories of a session

A history is a run of calls on one session, in any order and with any time
between them. Each call has a moment at which its caller gives it up, so it may
be dropped wherever it waits (`Conversation.run`).

Beside the answers of the calls stands the log, in which every octet that the
link delivered to a read or accepted from a write is on record (`deliveries`,
`writes`).
-/

set_option autoImplicit false

namespace Commissioner

/-! ## What the log tells -/

/-- The octets that a link delivered in an event. -/
def Event.delivery : Event → Octets
  | .delivered _ octets => octets
  | _ => []

/-- The octets that a link accepted in an event. -/
def Event.acceptance : Event → Octets
  | .wrote _ octets => octets
  | _ => []

/-- The octets delivered among events, in order. -/
def deliveries (events : List Event) : Octets :=
  events.flatMap Event.delivery

/-- The octets accepted among events, in order. -/
def writes (events : List Event) : Octets :=
  events.flatMap Event.acceptance

@[simp] theorem deliveries_nil : deliveries [] = [] := rfl

@[simp] theorem deliveries_append (earlier later : List Event) :
    deliveries (earlier ++ later) = deliveries earlier ++ deliveries later :=
  List.flatMap_append

@[simp] theorem writes_append (earlier later : List Event) :
    writes (earlier ++ later) = writes earlier ++ writes later :=
  List.flatMap_append

@[simp] theorem deliveries_delivered (link : Nat) (octets : Octets) :
    deliveries [.delivered link octets] = octets :=
  List.append_nil octets

@[simp] theorem deliveries_wrote (link : Nat) (pieces : List Octets) :
    deliveries (pieces.map (Event.wrote link)) = [] := by
  induction pieces with
  | nil => rfl
  | cons piece pieces ih => exact ih

@[simp] theorem writes_wrote (link : Nat) (pieces : List Octets) :
    writes (pieces.map (Event.wrote link)) = pieces.flatten := by
  induction pieces with
  | nil => rfl
  | cons piece pieces ih => exact congrArg (piece ++ ·) ih

/-- What is noted while pieces are written on a link and passed on. -/
def transmission (link : Nat) (pieces : List Octets) : List Event :=
  pieces.map (Event.wrote link) ++ [.flushing link, .flushed link]

@[simp] theorem deliveries_transmission (link : Nat) (pieces : List Octets) :
    deliveries (transmission link pieces) = [] := by
  rw [transmission, deliveries_append, deliveries_wrote]
  rfl

@[simp] theorem writes_transmission (link : Nat) (pieces : List Octets) :
    writes (transmission link pieces) = pieces.flatten := by
  rw [transmission, writes_append, writes_wrote]
  exact List.append_nil _

/-- Some link has passed on what it holds. -/
def PassedOn (events : List Event) : Prop :=
  ∃ link, .flushed link ∈ events

@[simp] theorem passedOn_append (earlier later : List Event) :
    PassedOn (earlier ++ later) ↔ PassedOn earlier ∨ PassedOn later := by
  simp only [PassedOn, List.mem_append, exists_or]

@[simp] theorem not_passedOn_wrote (link : Nat) (pieces : List Octets) :
    ¬ PassedOn (pieces.map (Event.wrote link)) := by
  simp [PassedOn]

theorem not_passedOn_printed (line : String) : ¬ PassedOn [.printed line] := by
  simp [PassedOn]

theorem passedOn_transmission (link : Nat) (pieces : List Octets) :
    PassedOn (transmission link pieces) :=
  ⟨link, List.mem_append_right _ (by simp)⟩

/-! ## What is still to come -/

def Arrival.content : Arrival → Octets
  | .octets content _ => content
  | _ => []

/-- The octets that a far end will have sent in all, however it cuts and times them. -/
def Script.content (script : Script) : Octets :=
  script.arrivals.flatMap Arrival.content

namespace Conversation

/-- The octets still to come on the link that the session holds. -/
def pending (talk : Conversation) : Octets :=
  match talk.session.link with
  | some link => link.far.content
  | none => []

/-! ## Calls -/

/-- What can be asked of a session. -/
inductive Call where
  /-- Nothing, while time passes. -/
  | pass (span : Nat)
  | load (credentials : Handshake)
  | handshake (name : String)
  | send (record : Tlv)
  /-- To write a record and wait for its answer. -/
  | request (record : Tlv)
  /-- To take a batch of records. -/
  | receive (size timeout : Nat)
  | close

/-- What a call came to. -/
inductive Answer where
  | done
  /-- The answer to a request, if one came. -/
  | answer (answer : Option Tlv)
  /-- The batch, if one came. -/
  | batch (batch : Option (List Tlv))
  | failed (error : SessionError)
  /-- It was dropped where it waited. -/
  | dropped

namespace Answer

/-- The records that a call returned. -/
def records : Answer → List Tlv
  | .answer (some record) => [record]
  | .batch (some records) => records
  | _ => []

/-- Whether a call returned an error. -/
def isError : Answer → Bool
  | .failed _ => true
  | _ => false

/-- The answer that an act which may fail gives. -/
def ofResult {α : Type} (success : α → Answer) : Option (Except SessionError α) → Answer
  | some (.ok value) => success value
  | some (.error error) => .failed error
  | none => .dropped

end Answer

/-- Carries out a call, dropped at a limit if it still waits then. -/
def Call.perform (limit : Nat) (talk : Conversation) : Call → Answer × Conversation
  | .pass span =>
      (.done, { talk with timeline := talk.timeline.advance (talk.timeline.now + span) })
  | .load credentials =>
      match talk.session.load credentials with
      | .ok session => (.done, { talk with session := session })
      | .error error => (.failed error, talk)
  | .handshake name =>
      let (result, talk) := Conversation.handshake name limit talk
      (.ofResult (fun () => .done) result, talk)
  | .send record =>
      let (result, talk) := Conversation.send record limit talk
      (.ofResult (fun () => .done) result, talk)
  | .request record =>
      let (result, talk) := Conversation.request record limit talk
      (.ofResult .answer result, talk)
  | .receive size timeout =>
      let (result, talk) := Conversation.receive size timeout limit talk
      (.ofResult .batch result, talk)
  | .close =>
      let (result, talk) := Conversation.close limit talk
      (.ofResult (fun () => .done) (result.map .ok), talk)

/-- Carries out calls one after another, each with the moment at which it is dropped. -/
def run : List (Call × Nat) → Conversation → List Answer × Conversation
  | [], talk => ([], talk)
  | (call, limit) :: calls, talk =>
      let (answer, talk) := call.perform limit talk
      let (answers, talk) := run calls talk
      (answer :: answers, talk)

/-- The records that calls returned, in the order of the calls. -/
def returned (answers : List Answer) : List Tlv :=
  answers.flatMap Answer.records

end Conversation

end Commissioner
