import Commissioner.Proofs.Session.Writing
import Commissioner.Session.Conversation

/-!
# What a session can do, step by step

A record is sent in a few steps, and at each of them sending may end (`Conversation.Sends`), and so
it is with passing on (`Conversation.Flushes`), with a read (`Conversation.Fetches`) and with
closing (`Conversation.Closes`). Taking complete records off the buffer either takes them all or
meets one that is too long (`Conversation.Drains`).

What an operation can do is said here once, and facts about it are read off by cases.
-/

set_option autoImplicit false

namespace Commissioner

namespace Conversation

/-! ## Sending -/

/-- An operation that is not refused finds the session in its phase. -/
theorem phase_of_expect {session : Session} {phase : Phase}
    (expected : session.expect phase = .ok ()) : session.phase = phase := by
  unfold Session.expect at expected
  split at expected
  · assumption
  · split at expected <;> cases expected

/-- The state once a link was told to pass on what it holds, whatever came of that. -/
def behindFlush (talk : Conversation) (link : Link) (far : Script) (now : Nat) : Conversation :=
  { session := { talk.session with link := some { link with far := far } }
    timeline := (talk.timeline.note (.flushing link.id)).advance now }

/-- The state behind pieces that a link has taken, with what it will take of others. -/
def behindWrites (talk : Conversation) (link : Link) (pieces : List Octets)
    (acceptances : List Acceptance) (now : Nat) : Conversation :=
  { session := { talk.session with
      link := some { link with far := { link.far with acceptances := acceptances } } }
    timeline := (talk.timeline.advance now).noteWrites link.id pieces }

@[simp] theorem now_behindFlush (talk : Conversation) (link : Link) (far : Script) (now : Nat) :
    (talk.behindFlush link far now).timeline.now = max talk.timeline.now now := rfl

@[simp] theorem now_behindWrites (talk : Conversation) (link : Link) (pieces : List Octets)
    (acceptances : List Acceptance) (now : Nat) :
    (talk.behindWrites link pieces acceptances now).timeline.now = max talk.timeline.now now := rfl

/-- How passing on ends. -/
inductive Flushes (link : Link) (limit : Nat) (talk : Conversation) :
    Option (Except SessionError Unit) → Conversation → Prop where
  | done {far : Script} {now : Nat}
      (told : link.far.flush limit talk.timeline.now = (.done, far, now)) :
      Flushes link limit talk (some (.ok ()))
        { talk.behindFlush link far now with
          timeline := (talk.behindFlush link far now).timeline.note (.flushed link.id) }
  | failed {fault : Fault} {far : Script} {now : Nat}
      (told : link.far.flush limit talk.timeline.now = (.fault fault, far, now)) :
      Flushes link limit talk (some (.error (.fault fault))) (talk.behindFlush link far now).shut
  | stalled {far : Script} {now : Nat}
      (told : link.far.flush limit talk.timeline.now = (.stalled, far, now)) :
      Flushes link limit talk none
        { talk.behindFlush link far now with
          timeline := (talk.behindFlush link far now).timeline.advance limit }

theorem flushes {link : Link} {limit : Nat} {talk after : Conversation}
    {result : Option (Except SessionError Unit)}
    (ended : flush link limit talk = (result, after)) : Flushes link limit talk result after := by
  unfold flush at ended
  rcases told : link.far.flush limit talk.timeline.now with ⟨ending, far, now⟩
  rw [told] at ended
  cases ending with
  | done =>
      cases ended
      exact .done told
  | fault fault =>
      cases ended
      exact .failed told
  | stalled =>
      cases ended
      exact .stalled told

/-- An established session writes the octets of a record on its link, in these pieces. -/
structure Writes (talk : Conversation) (record : Tlv) (limit : Nat) (link : Link) (wire : Octets)
    (pieces : List Octets) (ending : Script.WriteEnd) (acceptances : List Acceptance)
    (now : Nat) : Prop where
  established : talk.session.phase = .established
  framed : talk.session.framing.encode record = .ok wire
  held : talk.session.link = some link
  taken : Script.writeAll limit link.far.acceptances wire talk.timeline.now =
    (pieces, ending, acceptances, now)

theorem Writes.takes {talk : Conversation} {record : Tlv} {limit now : Nat} {link : Link}
    {wire : Octets} {pieces : List Octets} {ending : Script.WriteEnd}
    {acceptances : List Acceptance}
    (writes : Writes talk record limit link wire pieces ending acceptances now) :
    Script.Takes limit wire talk.timeline.now pieces ending now :=
  Script.takes_of_writeAll writes.taken

/-- How sending a record ends. -/
inductive Sends (record : Tlv) (limit : Nat) (talk : Conversation) :
    Option (Except SessionError Unit) → Conversation → Prop where
  | refused {error : SessionError} (refused : talk.session.expect .established = .error error) :
      Sends record limit talk (some (.error error)) talk
  | unwritable {error : TlvError} (established : talk.session.phase = .established)
      (framed : talk.session.framing.encode record = .error error) :
      Sends record limit talk (some (.error (.framing (.record error)))) talk
  | unlinked (none : talk.session.link = none) :
      Sends record limit talk (some (.error .closed)) talk.shut
  | stalled {link : Link} {wire : Octets} {pieces : List Octets} {acceptances : List Acceptance}
      {now : Nat} (writes : Writes talk record limit link wire pieces .stalled acceptances now) :
      Sends record limit talk none
        { talk.behindWrites link pieces acceptances now with
          timeline := (talk.behindWrites link pieces acceptances now).timeline.advance limit }
  | failed {link : Link} {wire : Octets} {pieces : List Octets} {fault : Fault}
      {acceptances : List Acceptance} {now : Nat}
      (writes : Writes talk record limit link wire pieces (.fault fault) acceptances now) :
      Sends record limit talk (some (.error (.fault fault)))
        (talk.behindWrites link pieces acceptances now).shut
  /-- All octets are taken, and the rest is passing them on. -/
  | passing {link : Link} {wire : Octets} {pieces : List Octets} {acceptances : List Acceptance}
      {now : Nat} {result : Option (Except SessionError Unit)} {after : Conversation}
      (writes : Writes talk record limit link wire pieces .done acceptances now)
      (passed : flush { link with far := { link.far with acceptances := acceptances } } limit
        (talk.behindWrites link pieces acceptances now) = (result, after)) :
      Sends record limit talk result after

/-- **All that sending a record can do.** -/
theorem sends {record : Tlv} {limit : Nat} {talk after : Conversation}
    {result : Option (Except SessionError Unit)}
    (ended : send record limit talk = (result, after)) : Sends record limit talk result after := by
  unfold send at ended
  split at ended
  next error refused =>
    cases ended
    exact .refused refused
  next expected =>
    have established := phase_of_expect expected
    split at ended
    next error framed =>
      cases ended
      exact .unwritable established framed
    next wire framed =>
      split at ended
      next none =>
        cases ended
        exact .unlinked none
      next link held =>
        rcases taken : Script.writeAll limit link.far.acceptances wire talk.timeline.now with
          ⟨pieces, ending, acceptances, now⟩
        rw [taken] at ended
        have writes : Writes talk record limit link wire pieces ending acceptances now :=
          ⟨established, framed, held, taken⟩
        cases ending with
        | done => exact .passing writes ended
        | fault fault =>
            cases ended
            exact .failed writes
        | stalled =>
            cases ended
            exact .stalled writes

/-! ## Reading -/

/-- How a read of at most `size` octets, or one if that is none, ends. -/
inductive Fetches (size : Nat) (deadline : Option Nat) (limit : Nat) (talk : Conversation) :
    Option (Except SessionError Reading) → Conversation → Prop where
  | unlinked (none : talk.session.link = none) :
      Fetches size deadline limit talk (some (.ok .finished)) talk
  | dropped {link : Link} {timeline : Timeline} (held : talk.session.link = some link)
      (waited : talk.timeline.wait link.far.readDue deadline limit = (.dropped, timeline)) :
      Fetches size deadline limit talk none { talk with timeline := timeline }
  | expired {link : Link} {timeline : Timeline} (held : talk.session.link = some link)
      (waited : talk.timeline.wait link.far.readDue deadline limit = (.expired, timeline)) :
      Fetches size deadline limit talk (some (.ok .expired)) { talk with timeline := timeline }
  | finished {link : Link} {timeline : Timeline} {far : Script}
      (held : talk.session.link = some link)
      (waited : talk.timeline.wait link.far.readDue deadline limit = (.ready, timeline))
      (given : link.far.take (size - 1) = (.finished, far)) :
      Fetches size deadline limit talk (some (.ok .finished))
        { talk with timeline := timeline }.shut
  | failed {link : Link} {timeline : Timeline} {fault : Fault} {far : Script}
      (held : talk.session.link = some link)
      (waited : talk.timeline.wait link.far.readDue deadline limit = (.ready, timeline))
      (given : link.far.take (size - 1) = (.fault fault, far)) :
      Fetches size deadline limit talk (some (.error (.fault fault)))
        { talk with timeline := timeline }.shut
  | more {link : Link} {timeline : Timeline} {octets : Octets} {far : Script}
      (held : talk.session.link = some link)
      (waited : talk.timeline.wait link.far.readDue deadline limit = (.ready, timeline))
      (given : link.far.take (size - 1) = (.octets octets, far)) :
      Fetches size deadline limit talk (some (.ok .more))
        { session :=
            { talk.session with
              link := some { link with far := far }
              received := talk.session.received ++ octets }
          timeline := timeline.note (.delivered link.id octets) }

/-- **All that a read can do.** -/
theorem fetches {size limit : Nat} {deadline : Option Nat} {talk after : Conversation}
    {result : Option (Except SessionError Reading)}
    (ended : read size deadline limit talk = (result, after)) :
    Fetches size deadline limit talk result after := by
  unfold read at ended
  split at ended
  next none =>
    cases ended
    exact .unlinked none
  next link held =>
    split at ended
    next waited =>
      cases ended
      exact .dropped held waited
    next waited =>
      cases ended
      exact .expired held waited
    next waited =>
      split at ended
      next given =>
        cases ended
        exact .finished held waited given
      next given =>
        cases ended
        exact .failed held waited given
      next given =>
        cases ended
        exact .more held waited given

/-- How taking every complete record off the buffer ends. -/
inductive Drains (talk : Conversation) : Except SessionError (List Tlv) → Conversation → Prop where
  | all (whole : (talk.session.framing.drain talk.session.received).refused = none) :
      Drains talk (.ok (talk.session.framing.drain talk.session.received).records)
        { talk with session := { talk.session with
            received := (talk.session.framing.drain talk.session.received).rest } }
  /-- A record is too long. -/
  | refused {size : Nat}
      (long : (talk.session.framing.drain talk.session.received).refused = some size) :
      Drains talk (.error (.framing (.record (talk.session.framing.refusal size))))
        { talk with session := { talk.session with
            received := (talk.session.framing.drain talk.session.received).rest } }.shut

theorem drains {talk after : Conversation} {result : Except SessionError (List Tlv)}
    (drained : drain talk = (result, after)) : Drains talk result after := by
  unfold drain at drained
  simp only at drained
  split at drained
  next whole =>
    cases drained
    exact .all whole
  next long =>
    cases drained
    exact .refused long

/-! ## Closing -/

/-- How closing ends. -/
inductive Closes (limit : Nat) (talk : Conversation) : Option Unit → Conversation → Prop where
  | unlinked (none : talk.session.link = none) : Closes limit talk (some ()) talk.shut
  /-- The link is let go all the same. -/
  | dropped {link : Link} {due deadline : Option Nat} {timeline : Timeline}
      (held : talk.session.link = some link)
      (waited : (talk.timeline.note (.shutDown link.id)).wait due deadline limit =
        (.dropped, timeline)) :
      Closes limit talk none
        { session := { talk.session with link := none }
          timeline := timeline.note (.released link.id) }
  | done {link : Link} {due deadline : Option Nat} {ending : Timeline.Waited}
      {timeline : Timeline} (held : talk.session.link = some link)
      (waited : (talk.timeline.note (.shutDown link.id)).wait due deadline limit =
        (ending, timeline)) :
      Closes limit talk (some ()) { talk with timeline := timeline }.shut

theorem closes {limit : Nat} {talk after : Conversation} {result : Option Unit}
    (ended : close limit talk = (result, after)) : Closes limit talk result after := by
  unfold close at ended
  split at ended
  next none =>
    cases ended
    exact .unlinked none
  next link held =>
    simp only at ended
    split at ended
    next waited =>
      cases ended
      exact .dropped held waited
    next waited =>
      cases ended
      exact .done held waited

end Conversation

end Commissioner
