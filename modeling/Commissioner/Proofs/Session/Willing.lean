import Commissioner.Proofs.Session.Exchange
import Commissioner.Proofs.Session.Outgoing

/-!
# Links that take every write

A far end is willing when it takes something of every write, at once or from a moment on
(`Acceptance.Willing`). Over such a link a record that can be written is written to its last
octet unless the call is dropped before that, whatever comes of it then (`writes_request`).

A session that is established and holds its link is usable. It stays so through a request
that is answered and a batch that is received (`request_usable`, `receive_usable`), and
nothing makes a willing link another one (`Moves.willing`).
-/

set_option autoImplicit false

namespace Commissioner

/-- The far end takes at least one octet of a write, at once or from a moment on. -/
inductive Acceptance.Willing : Acceptance → Prop where
  | all : Willing .all
  | upTo (count : Nat) : Willing (.upTo (count + 1))
  | busy (due : Nat) : Willing (.busy due)

/-- The far end takes every write. -/
def Script.Willing (script : Script) : Prop :=
  ∀ acceptance ∈ script.acceptances, acceptance.Willing

/-- Octets that are not waited for in vain are written to the last one on a willing link, which
stays willing in any case. -/
theorem Script.writeAll_of_willing {limit now later : Nat} {acceptances rest : List Acceptance}
    {octets : Octets} {pieces : List Octets} {ending : WriteEnd}
    (willing : ∀ acceptance ∈ acceptances, acceptance.Willing)
    (written : writeAll limit acceptances octets now = (pieces, ending, rest, later)) :
    (ending ≠ .stalled → ending = .done) ∧ ∀ acceptance ∈ rest, acceptance.Willing := by
  fun_induction Script.writeAll limit acceptances octets now generalizing pieces rest with
  | case1 =>
      cases written
      exact ⟨fun _ => rfl, willing⟩
  | case2 =>
      cases written
      exact ⟨fun _ => rfl, List.forall_mem_nil _⟩
  | case3 =>
      cases written
      exact ⟨fun _ => rfl, fun other member => willing other (List.mem_cons_of_mem _ member)⟩
  | case4 | case6 | case9 => cases willing _ List.mem_cons_self
  | case5 count rest octets now _ more ending left moment behind ih =>
      cases written
      exact ih (fun other member => willing other (List.mem_cons_of_mem _ member)) behind
  | case7 due rest octets now _ near ih =>
      exact ih (fun other member => willing other (List.mem_cons_of_mem _ member)) written
  | case8 =>
      cases written
      exact ⟨fun inTime => absurd rfl inTime, willing⟩

theorem Script.acceptances_take (script : Script) (count : Nat) :
    (script.take count).2.acceptances = script.acceptances := by
  unfold take
  split <;> rfl

/-- What link a session has takes every write. -/
def Session.Willing (session : Session) : Prop :=
  ∀ link, session.link = some link → link.far.Willing

/-- The session is established and holds its link. -/
def Session.Usable (session : Session) : Prop :=
  session.phase = .established ∧ session.link ≠ none

/-- The octets of a record that was encoded, or none when it could not be. -/
def spelled (encoded : Except TlvError Octets) : Octets :=
  encoded.toOption.getD []

namespace Conversation

theorem Move.willing {talk after : Conversation} {taken : List Tlv} {written : Octets}
    (move : Move talk taken written after) (opened : talk.session.Opened)
    (willing : talk.session.Willing) : after.session.Willing := by
  have phases := Session.opened_iff.mp opened
  cases move with
  | secure _ handshaking => rw [handshaking] at phases; exact absurd phases (by decide)
  | idle => exact willing
  | mark => exact willing
  | load => exact willing
  | take => exact willing
  | surrender => exact nofun
  | part => exact nofun
  | shut => exact nofun
  | flushed => exact willing
  | write _ held taken =>
      rintro _ ⟨⟩
      exact (Script.writeAll_of_willing (willing _ held) taken).2
  | @flush link _ far _ _ _ _ held told =>
      rintro _ ⟨⟩
      have same : far.acceptances = link.far.acceptances := by rw [Script.eq_of_flush told]
      unfold Script.Willing
      rw [same]
      exact willing link held
  | @deliver link far _ count _ held _ given =>
      rintro _ ⟨⟩
      have same := link.far.acceptances_take count
      rw [given] at same
      unfold Script.Willing
      rw [same]
      exact willing link held

/-- A willing link stays willing, whatever an opened session does. -/
theorem Moves.willing {talk after : Conversation} {taken : List Tlv} {written : Octets}
    (moves : Moves talk taken written after) (opened : talk.session.Opened)
    (willing : talk.session.Willing) : after.session.Willing := by
  induction moves with
  | refl => exact willing
  | head move _ ih => exact ih ((Moves.single move).opened opened) (move.willing opened willing)

/-! ## Writing on a willing link -/

/-- **Sending a record on a willing link writes all of it** when it can be written and is not
dropped. -/
theorem writes_send {record : Tlv} {limit : Nat} {talk : Conversation}
    (usable : talk.session.Usable) (willing : talk.session.Willing)
    (came : (send record limit talk).1 ≠ none) :
    ∃ events, (send record limit talk).2.timeline.log = talk.timeline.log ++ events ∧
      writes events = spelled (talk.session.framing.encode record) := by
  rcases ended : send record limit talk with ⟨result, after⟩
  rw [ended] at came
  cases sends ended with
  | refused refused =>
      rw [Session.expect_of_eq usable.1] at refused
      cases refused
  | unwritable _ framed =>
      refine ⟨[], (List.append_nil _).symm, ?_⟩
      rw [framed]
      rfl
  | unlinked none => exact absurd none usable.2
  | stalled => exact absurd rfl came
  | failed writes =>
      have whole := (Script.writeAll_of_willing (willing _ writes.held) writes.taken).1
      cases whole nofun
  | @passing link wire pieces _ _ _ _ writes passed =>
      -- Whatever comes of the flush, nothing more is written.
      obtain ⟨more, ledger⟩ := (flush_moves passed writes.established rfl).exists_ledger
      refine ⟨pieces.map (Event.wrote link.id) ++ more, ?_, ?_⟩
      · rw [← List.append_assoc]
        exact ledger.log
      · rw [writes_append, writes_wrote, writes.takes.whole rfl, ledger.wrote, writes.framed]
        exact List.append_nil wire

/-- A request on a willing link writes its record when it can be written and is not dropped, and
no more. -/
theorem writes_request {record : Tlv} {limit : Nat} {talk : Conversation}
    (usable : talk.session.Usable) (willing : talk.session.Willing)
    (came : (request record limit talk).1 ≠ none) :
    ∃ events, (request record limit talk).2.timeline.log = talk.timeline.log ++ events ∧
      writes events = spelled (talk.session.framing.encode record) := by
  have sent : (send record limit (mark true talk)).1 ≠ none := by
    intro dropped
    refine came ?_
    unfold request
    rw [marked_apply, Act.bind_apply, ← Prod.eta (send record limit (mark true talk)), dropped]
    rfl
  have usableThen : (mark true talk).session.Usable := usable
  obtain ⟨events, log, wrote⟩ := writes_send usableThen willing sent
  obtain ⟨more, behind, unwritten, -⟩ := request_behind (Prod.eta _).symm sent
  refine ⟨events ++ more, ?_, ?_⟩
  · rw [behind, log, List.append_assoc]
    rfl
  · rw [writes_append, wrote, unwritten, List.append_nil]
    rfl

/-! ## Sessions that stay usable -/

/-- A read that brings octets leaves the session as usable as it was. -/
theorem usable_of_more {size limit : Nat} {deadline : Option Nat} {talk after : Conversation}
    (usable : talk.session.Usable)
    (brought : read size deadline limit talk = (some (.ok .more), after)) :
    after.session.Usable := by
  cases fetches brought with
  | more => exact ⟨usable.1, Option.some_ne_none _⟩

theorem usable_awaitAnswer {deadline : Option Nat} {limit : Nat} {talk after : Conversation}
    {answer : Tlv} (usable : talk.session.Usable)
    (answered : awaitAnswer deadline limit talk = (some (.ok (some answer)), after)) :
    after.session.Usable := by
  fun_induction awaitAnswer deadline limit talk with
  | case1 =>
      cases answered
      exact usable
  | case6 talk _ middle brought ih => exact ih (usable_of_more usable brought) answered
  | _ => cases answered

theorem usable_drain {talk after : Conversation} {records : List Tlv}
    (usable : talk.session.Usable) (drained : drain talk = (.ok records, after)) :
    after.session.Usable := by
  cases drains drained with
  | all => exact usable

theorem usable_awaitRecords {size deadline limit : Nat} {talk after : Conversation}
    {records : List Tlv} (usable : talk.session.Usable)
    (received : awaitRecords size deadline limit talk = (some (.ok (some records)), after)) :
    after.session.Usable := by
  fun_induction awaitRecords size deadline limit talk with
  | case6 talk middle brought record records _ drained =>
      cases received
      exact usable_drain (usable_of_more usable brought) drained
  | case7 talk middle brought _ _ ih => exact ih (usable_of_more usable brought) received
  | _ => cases received

/-- **A session is usable behind an answer.** -/
theorem request_usable {record answer : Tlv} {limit : Nat} {talk after : Conversation}
    (answered : request record limit talk = (some (.ok (some answer)), after)) :
    after.session.Usable := by
  obtain ⟨middle, sent⟩ := exists_sent_of_answered answered
  obtain ⟨link, pieces, wrote⟩ := send_ok sent
  obtain ⟨far, held, -⟩ := wrote.stillHeld
  have usable : middle.session.Usable := ⟨wrote.phase, by rw [held]; exact Option.some_ne_none _⟩
  rw [request_of_sent sent] at answered
  obtain ⟨last, awaited, rfl⟩ := exists_of_finished answered
  have still : last.session.Usable := usable_awaitAnswer usable awaited
  exact still

/-- **A usable session is usable behind a batch.** -/
theorem receive_usable {size timeout limit : Nat} {talk after : Conversation}
    {records : List Tlv} (usable : talk.session.Usable)
    (received : receive size timeout limit talk = (some (.ok (some records)), after)) :
    after.session.Usable := by
  rw [receive_eq_collect size timeout limit usable.1] at received
  obtain ⟨last, collected, rfl⟩ := exists_of_finished received
  have begun : (mark true talk).session.Usable := usable
  unfold collect at collected
  split at collected
  next => cases collected
  next drained =>
    cases collected
    have still : last.session.Usable := usable_drain begun drained
    exact still
  next =>
    have still : last.session.Usable := usable_awaitRecords begun collected
    exact still

end Conversation

end Commissioner
