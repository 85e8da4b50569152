import Commissioner.Proofs.Session.Delivery

/-!
# The mark of an unfinished request

A request leaves its mark on the session if it is dropped, wherever it waits then, and so
does the wait for a batch (`unfinished_of_request_dropped`, `unfinished_of_receive_dropped`).
Sending a record by itself leaves no mark. It is dropped behind some of the octets of the record
but not all of them, or behind all of them while the link passes them on (`SendDropped`).
-/

set_option autoImplicit false

namespace Commissioner

namespace Conversation

/-! ## What leaves the mark as it is -/

theorem unfinished_of_close {limit : Nat} {talk after : Conversation} {result : Option Unit}
    (ended : close limit talk = (result, after)) :
    after.session.unfinished = talk.session.unfinished := by
  cases closes ended with
  | unlinked => rfl
  | dropped => rfl
  | done => rfl

theorem unfinished_of_flush {link : Link} {limit : Nat} {talk after : Conversation}
    {result : Option (Except SessionError Unit)}
    (passed : flush link limit talk = (result, after)) :
    after.session.unfinished = talk.session.unfinished := by
  cases flushes passed with
  | done => rfl
  | failed => rfl
  | stalled => rfl

@[simp] theorem unfinished_send (record : Tlv) (limit : Nat) (talk : Conversation) :
    (send record limit talk).2.session.unfinished = talk.session.unfinished := by
  rcases ended : send record limit talk with ⟨result, after⟩
  cases sends ended with
  | refused => rfl
  | unwritable => rfl
  | unlinked => rfl
  | stalled => rfl
  | failed => rfl
  | passing _ passed =>
      rw [unfinished_of_flush passed]
      rfl

theorem unfinished_of_read {size limit : Nat} {deadline : Option Nat} {talk after : Conversation}
    {result : Option (Except SessionError Reading)}
    (ended : read size deadline limit talk = (result, after)) :
    after.session.unfinished = talk.session.unfinished := by
  cases fetches ended with
  | unlinked => rfl
  | dropped => rfl
  | expired => rfl
  | finished => rfl
  | failed => rfl
  | more => rfl

theorem unfinished_of_drain {talk after : Conversation} {result : Except SessionError (List Tlv)}
    (drained : drain talk = (result, after)) :
    after.session.unfinished = talk.session.unfinished := by
  cases drains drained with
  | all => rfl
  | refused => rfl

theorem unfinished_awaitAnswer (deadline : Option Nat) (limit : Nat) (talk : Conversation) :
    (awaitAnswer deadline limit talk).2.session.unfinished = talk.session.unfinished := by
  fun_induction awaitAnswer deadline limit talk with
  | case1 => rfl
  | case2 => rfl
  | case3 talk _ after ended => exact unfinished_of_read ended
  | case4 talk _ error after ended => exact unfinished_of_read ended
  | case5 talk _ after ended => exact unfinished_of_read ended
  | case6 talk _ after ended ih => exact ih.trans (unfinished_of_read ended)
  | case7 talk _ after ended closed shut | case8 talk _ after ended closed shut =>
      exact (unfinished_of_close shut).trans (unfinished_of_read ended)

theorem unfinished_awaitRecords (size deadline limit : Nat) (talk : Conversation) :
    (awaitRecords size deadline limit talk).2.session.unfinished = talk.session.unfinished := by
  fun_induction awaitRecords size deadline limit talk with
  | case1 talk after ended => exact unfinished_of_read ended
  | case2 talk error after ended => exact unfinished_of_read ended
  | case3 talk after ended => exact unfinished_of_read ended
  | case4 talk after ended => exact unfinished_of_read ended
  | case5 talk middle ended error after drained =>
      exact (unfinished_of_drain drained).trans (unfinished_of_read ended)
  | case6 talk middle ended record records after drained =>
      exact (unfinished_of_drain drained).trans (unfinished_of_read ended)
  | case7 talk middle ended after drained ih => exact ih.trans (unfinished_of_read ended)

/-! ## What leaves the mark -/

/-- A marked act leaves the mark if it is dropped, and only then. -/
theorem unfinished_marked {α : Type} {act : Act Conversation α}
    (keeps : ∀ limit talk, (act limit talk).2.session.unfinished = talk.session.unfinished)
    (limit : Nat) (talk : Conversation) :
    (marked act limit talk).2.session.unfinished = (marked act limit talk).1.isNone := by
  have kept := keeps limit (mark true talk)
  rw [marked_apply]
  rcases ended : act limit (mark true talk) with ⟨_ | value, after⟩
  case none =>
    rw [ended] at kept
    exact kept
  case some => rfl

/-- **A request leaves its mark if it is dropped**, and only then. -/
theorem unfinished_request (record : Tlv) (limit : Nat) (talk : Conversation) :
    (request record limit talk).2.session.unfinished = (request record limit talk).1.isNone := by
  refine unfinished_marked (fun limit talk => ?_) limit talk
  have sent := unfinished_send record limit talk
  rw [Act.bind_apply]
  rcases ended : send record limit talk with ⟨_ | _ | _, after⟩
  case none =>
    rw [ended] at sent
    exact sent
  case some.error =>
    rw [ended] at sent
    exact sent
  case some.ok =>
    rw [ended] at sent
    exact (unfinished_awaitAnswer _ limit after).trans sent

/-- **So does the wait for a batch.** -/
theorem unfinished_receive (size timeout limit : Nat) (talk : Conversation) :
    (receive size timeout limit talk).2.session.unfinished =
      (receive size timeout limit talk).1.isNone := by
  refine unfinished_marked (fun limit talk => ?_) limit talk
  split
  next => rfl
  next =>
    split
    next drained => exact unfinished_of_drain drained
    next drained => exact unfinished_of_drain drained
    next => exact unfinished_awaitRecords size _ limit talk

/-! ## Sending that is dropped -/

/-- Where the sending of a record can be dropped, and what its link has been told by then. -/
inductive SendHalts (record : Tlv) (link : Nat) (pieces : List Octets) : List Event → Prop where
  /-- Amid the octets of the record, some of which are left. -/
  | writing (part : record.encode ≠ .ok pieces.flatten) :
      SendHalts record link pieces (pieces.map (Event.wrote link))
  /-- While the link passes on the record, all of which it has taken. -/
  | flushing (whole : record.encode = .ok pieces.flatten) :
      SendHalts record link pieces (pieces.map (Event.wrote link) ++ [.flushing link])

namespace SendHalts

variable {record : Tlv} {link : Nat} {pieces : List Octets} {events : List Event}

theorem writes_eq (halts : SendHalts record link pieces events) :
    writes events = pieces.flatten := by
  cases halts with
  | writing => exact writes_wrote link pieces
  | flushing =>
      rw [writes_append, writes_wrote]
      exact List.append_nil _

/-- The link has not passed anything on by then. -/
theorem not_passedOn (halts : SendHalts record link pieces events) : ¬ PassedOn events := by
  cases halts with
  | writing => exact not_passedOn_wrote link pieces
  | flushing => simp [PassedOn]

end SendHalts

/-- The sending of a record was dropped, behind the octets that its link had accepted. -/
structure SendDropped (talk : Conversation) (record : Tlv) (link : Link) (pieces : List Octets)
    (after : Conversation) : Prop where
  established : after.session.phase = .established
  held : talk.session.link = some link
  stillHeld : ∃ far, after.session.link = some ⟨link.id, far⟩
  front : ∃ wire, record.encode = .ok wire ∧ pieces.flatten <+: wire
  log : ∃ events, after.timeline.log = talk.timeline.log ++ events ∧
    SendHalts record link.id pieces events

/-- **Sending is dropped only while it writes, or while the link passes on the record.** -/
theorem send_dropped {record : Tlv} {limit : Nat} {talk after : Conversation}
    (dropped : send record limit talk = (none, after)) :
    ∃ link pieces, SendDropped talk record link pieces after := by
  cases sends dropped with
  | @stalled link wire pieces _ _ writes =>
      have spelled := Framing.encode_eq_of_ok writes.framed
      refine ⟨link, pieces, writes.established, writes.held, ⟨_, rfl⟩,
        ⟨wire, spelled, writes.takes.front⟩, _, rfl, .writing fun whole => ?_⟩
      cases spelled.symm.trans whole
      exact writes.takes.part rfl rfl
  | @passing link wire pieces _ _ _ _ writes passed =>
      have spelled := Framing.encode_eq_of_ok writes.framed
      cases flushes passed with
      | stalled told =>
          refine ⟨link, pieces, writes.established, writes.held, ⟨_, rfl⟩,
            ⟨wire, spelled, writes.takes.front⟩, _, List.append_assoc .., .flushing ?_⟩
          rw [spelled, writes.takes.whole rfl]

end Conversation

end Commissioner
