import Commissioner.Session.Basic

/-!
# What a session does

The operations of a session that touch its link, as acts on the session and the
timeline it lives on.

* `handshake` takes the link and the credentials out of the session before it
  waits; they come back only with a link on which records may travel.
* `send` writes one record and has it passed on. A record that does not fit is
  refused before anything is written; a write or a flush that fails closes the
  session.
* `request` writes one record and takes exactly one record as its answer, which
  may have been in the buffer already. The time for the answer counts from the
  end of the writing. When none comes in time the session is closed, so that a
  late one is not taken for the answer to a later request.
* `receive` takes every complete record there is, and waits for the first one.
* `close` shuts the link down, within two seconds.

Both reading loops end because each read that delivers octets leaves less to
read.
-/

set_option autoImplicit false

namespace Commissioner

/-- A session and the timeline it lives on. -/
structure Conversation where
  session : Session
  timeline : Timeline
  deriving Inhabited

/-- Notes that a link is let go, if there is one. -/
def Timeline.release (timeline : Timeline) : Option Link → Timeline
  | some link => timeline.note (.released link.id)
  | none => timeline

/-- The bound on an orderly shutdown, in milliseconds. -/
def closeTimeout : Nat := 2000

namespace Conversation

/-! ## Closing -/

/-- Closes the session for good, which lets its link go. -/
def shut (talk : Conversation) : Conversation :=
  { session := { talk.session with phase := .closed, link := none, handshake := none }
    timeline := talk.timeline.release talk.session.link }

/-- Shuts the link down in an orderly way and closes the session. The link leaves
the session before the wait. -/
def close : Act Conversation Unit := fun limit talk =>
  match talk.session.link with
  | none => (some (), talk.shut)
  | some link =>
      let timeline := talk.timeline.note (.shutDown link.id)
      let due := if link.far.shutdown = .stall then none else some timeline.now
      match timeline.wait due (some (timeline.now + closeTimeout)) limit with
      | (.dropped, timeline) =>
          (none,
            { session := { talk.session with link := none }
              timeline := timeline.note (.released link.id) })
      | (_, timeline) => (some (), { talk with timeline := timeline }.shut)

/-! ## The handshake -/

/-- Carries out the handshake against a name. -/
def handshake (name : String) : Act Conversation (Except SessionError Unit) := fun limit talk =>
  match talk.session.expect .handshaking with
  | .error error => (some (.error error), talk)
  | .ok () =>
      match talk.session.handshake, talk.session.link with
      | some handshake, some link =>
          let session := { talk.session with handshake := none, link := none }
          let bound := session.limits.handshakeTimeout
          match handshake.negotiate name link (talk.timeline.now + bound) limit talk.timeline with
          | (.secured link, timeline) =>
              (some (.ok ()),
                ⟨{ session with phase := .established, link := some link },
                  timeline.note (.secured link.id)⟩)
          | (.refused fault, timeline) =>
              (some (.error (.handshakeFailed fault.message)), shut ⟨session, timeline⟩)
          | (.expired, timeline) =>
              (some (.error (.handshakeFailed ("no answer within " ++ Duration.text bound))),
                shut ⟨session, timeline⟩)
          | (.dropped, timeline) => (none, ⟨session, timeline⟩)
      | _, _ => (some (.error .closed), talk.shut)

/-! ## Writing -/

/-- Waits until the link has passed on what it holds, which is the last step of writing. -/
def flush (link : Link) : Act Conversation (Except SessionError Unit) := fun limit talk =>
  match link.far.flush limit talk.timeline.now with
  | (ending, far, now) =>
      let talk :=
        { session := { talk.session with link := some { link with far := far } }
          timeline := (talk.timeline.note (.flushing link.id)).advance now }
      match ending with
      | .stalled => (none, { talk with timeline := talk.timeline.advance limit })
      | .fault fault => (some (.error (.fault fault)), shut talk)
      | .done => (some (.ok ()), { talk with timeline := talk.timeline.note (.flushed link.id) })

/-- Writes one record. -/
def send (record : Tlv) : Act Conversation (Except SessionError Unit) := fun limit talk =>
  match talk.session.expect .established with
  | .error error => (some (.error error), talk)
  | .ok () =>
      match talk.session.framing.encode record with
      | .error error => (some (.error (.framing (.record error))), talk)
      | .ok octets =>
          match talk.session.link with
          | none => (some (.error .closed), talk.shut)
          | some link =>
              match Script.writeAll limit link.far.acceptances octets talk.timeline.now with
              | (pieces, ending, acceptances, now) =>
                  let link := { link with far := { link.far with acceptances := acceptances } }
                  let talk :=
                    { session := { talk.session with link := some link }
                      timeline := (talk.timeline.advance now).noteWrites link.id pieces }
                  match ending with
                  | .stalled => (none, { talk with timeline := talk.timeline.advance limit })
                  | .fault fault => (some (.error (.fault fault)), shut talk)
                  | .done => flush link limit talk

/-! ## Reading -/

/-- What a read brought. -/
inductive Reading where
  /-- Octets, now in the buffer. -/
  | more
  /-- The end of the stream. -/
  | finished
  /-- Nothing before the deadline. -/
  | expired
  deriving DecidableEq

/-- How much is left to read on the link. -/
def unread (talk : Conversation) : Nat :=
  match talk.session.link with
  | some link => link.far.unread
  | none => 0

/-- Reads at most `size` octets, or one if that is none, into the buffer. -/
def read (size : Nat) (deadline : Option Nat) : Act Conversation (Except SessionError Reading) :=
  fun limit talk =>
    match talk.session.link with
    | none => (some (.ok .finished), talk)
    | some link =>
        match talk.timeline.wait link.far.readDue deadline limit with
        | (.dropped, timeline) => (none, { talk with timeline := timeline })
        | (.expired, timeline) => (some (.ok .expired), { talk with timeline := timeline })
        | (.ready, timeline) =>
            match link.far.take (size - 1) with
            | (.finished, _) => (some (.ok .finished), { talk with timeline := timeline }.shut)
            | (.fault fault, _) =>
                (some (.error (.fault fault)), { talk with timeline := timeline }.shut)
            | (.octets octets, far) =>
                (some (.ok .more),
                  { session :=
                      { talk.session with
                        link := some { link with far := far }
                        received := talk.session.received ++ octets }
                    timeline := timeline.note (.delivered link.id octets) })

/-- A read that brings octets leaves less to read. -/
theorem unread_read {size limit : Nat} {deadline : Option Nat} {talk after : Conversation}
    (brought : read size deadline limit talk = (some (.ok .more), after)) :
    after.unread < talk.unread := by
  unfold read at brought
  split at brought
  next => simp at brought
  next link held =>
    split at brought
    next => simp at brought
    next => simp at brought
    next =>
      split at brought
      next => simp at brought
      next => simp at brought
      next octets far given =>
        simp only [Prod.mk.injEq, true_and] at brought
        subst brought
        simp only [unread, held]
        exact Script.unread_take given

/-- Takes every complete record off the buffer. A record that is too long closes
the session. -/
def drain (talk : Conversation) : Except SessionError (List Tlv) × Conversation :=
  let drained := talk.session.framing.drain talk.session.received
  let talk := { talk with session := { talk.session with received := drained.rest } }
  match drained.refused with
  | none => (.ok drained.records, talk)
  | some size => (.error (.framing (.record (talk.session.framing.refusal size))), talk.shut)

/-- Waits for the first complete record, up to a deadline if there is one. -/
def awaitAnswer (deadline : Option Nat) (limit : Nat) (talk : Conversation) :
    Option (Except SessionError (Option Tlv)) × Conversation :=
  match talk.session.framing.next talk.session.received with
  | .record record rest =>
      (some (.ok (some record)), { talk with session := { talk.session with received := rest } })
  | .tooLarge size rest =>
      (some (.error (.framing (.record (talk.session.framing.refusal size)))),
        { talk with session := { talk.session with received := rest } }.shut)
  | .incomplete =>
      match _brought : read talk.session.limits.readSize deadline limit talk with
      | (none, talk) => (none, talk)
      | (some (.error error), talk) => (some (.error error), talk)
      | (some (.ok .finished), talk) => (some (.ok none), talk)
      | (some (.ok .more), talk) => awaitAnswer deadline limit talk
      | (some (.ok .expired), talk) =>
          match close limit talk with
          | (some (), talk) => (some (.ok none), talk)
          | (none, talk) => (none, talk)
termination_by talk.unread
decreasing_by exact unread_read _brought

/-- Reads until a record is complete, up to a deadline, and takes every complete
record off the buffer. -/
def awaitRecords (size deadline limit : Nat) (talk : Conversation) :
    Option (Except SessionError (Option (List Tlv))) × Conversation :=
  match _brought : read size (some deadline) limit talk with
  | (none, talk) => (none, talk)
  | (some (.error error), talk) => (some (.error error), talk)
  | (some (.ok .finished), talk) => (some (.ok none), talk)
  | (some (.ok .expired), talk) => (some (.ok none), talk)
  | (some (.ok .more), talk) =>
      match drain talk with
      | (.error error, talk) => (some (.error error), talk)
      | (.ok (record :: records), talk) => (some (.ok (some (record :: records))), talk)
      | (.ok [], _) => awaitRecords size deadline limit talk
termination_by talk.unread
decreasing_by exact unread_read _brought

/-! ## Requests and batches -/

/-- Marks whether a request is begun and not finished. -/
def mark (unfinished : Bool) (talk : Conversation) : Conversation :=
  { talk with session := { talk.session with unfinished := unfinished } }

/-- An act that leaves its mark on the session if it is dropped, and only then. -/
def marked {α : Type} (act : Act Conversation α) : Act Conversation α := do
  Act.change (mark true)
  let value ← act
  Act.change (mark false)
  return value

/-- Writes one record and takes one record as its answer, or none if the stream
ends or no answer comes in time. -/
def request (record : Tlv) : Act Conversation (Except SessionError (Option Tlv)) :=
  marked do
    match ← send record with
    | .error error => return .error error
    | .ok () => fun limit talk =>
        awaitAnswer (talk.session.limits.responseTimeout.map (talk.timeline.now + ·)) limit talk

/-- Takes every complete record, waiting up to a timeout for the first one; none
if it passes or the stream ends before. -/
def receive (size timeout : Nat) : Act Conversation (Except SessionError (Option (List Tlv))) :=
  marked fun limit talk =>
    match talk.session.expect .established with
    | .error error => (some (.error error), talk)
    | .ok () =>
        match drain talk with
        | (.error error, talk) => (some (.error error), talk)
        | (.ok (record :: records), talk) => (some (.ok (some (record :: records))), talk)
        | (.ok [], _) => awaitRecords size (talk.timeline.now + timeout) limit talk

end Conversation

end Commissioner
