import Mathlib.Data.List.Basic
import Commissioner.Proofs.Session.Delivery

/-!
# Which answer belongs to which request

A request that is answered happens in two parts: first its octets are written, and
then its answer is read (`request_answered`). The answer is the first record of what
the buffer held when the request was begun and what was delivered while its answer
was read.

So the answer was delivered behind its request exactly when the buffer was empty. A
record that was left there, behind the answer to an earlier request, is taken for the
answer to the next one.
-/

set_option autoImplicit false

namespace Commissioner.Conversation

/-! ## One request -/

/-- How a request came to its answer: what happened while it was written, and what
happened while the answer was read. -/
structure Answered (talk : Conversation) (record answer : Tlv) (writing reading : List Event)
    (after : Conversation) : Prop where
  /-- First the request was written, and then the answer was read. -/
  log : after.timeline.log = talk.timeline.log ++ (writing ++ reading)
  /-- What was written is the request. -/
  asked : record.encode = .ok (writes writing)
  /-- Nothing was delivered while the request was written. -/
  undelivered : deliveries writing = []
  /-- Nothing was written while the answer was read. -/
  unwritten : writes reading = []
  /-- The answer is the first record of what the buffer held and what was delivered. -/
  first : Tlv.split? (talk.session.received ++ deliveries reading) =
    some (answer, after.session.received)
  /-- Nothing is read when a record is in the buffer already. -/
  unread : ∀ stale rest, Tlv.split? talk.session.received = some (stale, rest) →
    deliveries reading = []

/-- An answer that was waited for is the first record of what the buffer held and
what was delivered, and nothing was written meanwhile. -/
theorem awaitAnswer_answered {deadline : Option Nat} {limit : Nat} {talk after : Conversation}
    {answer : Tlv} (established : talk.session.phase = .established)
    (answered : awaitAnswer deadline limit talk = (some (.ok (some answer)), after)) :
    ∃ reading, after.timeline.log = talk.timeline.log ++ reading ∧ writes reading = [] ∧
      Tlv.split? (talk.session.received ++ deliveries reading) =
        some (answer, after.session.received) := by
  have accounts := awaitAnswer_accounts deadline limit established
  rw [answered] at accounts
  obtain ⟨taken, moves, exact⟩ := accounts
  obtain ⟨reading, ledger⟩ := moves.exists_ledger
  have takes := ledger.takes
  rw [exact rfl] at takes
  cases takes with
  | cons first further =>
      rw [← further.eq_of_nil] at first
      exact ⟨reading, ledger.log, ledger.wrote, first⟩

/-- A record in the buffer is the answer at once. -/
theorem awaitAnswer_buffered {deadline : Option Nat} {limit : Nat} {talk after : Conversation}
    {stale answer : Tlv} {rest : Octets}
    (buffered : Tlv.split? talk.session.received = some (stale, rest))
    (answered : awaitAnswer deadline limit talk = (some (.ok (some answer)), after)) :
    after.timeline.log = talk.timeline.log := by
  unfold awaitAnswer at answered
  split at answered
  next => cases answered; rfl
  next => cases answered
  next nothing =>
    rw [Framing.next_eq_incomplete.mp nothing] at buffered
    cases buffered

/-- Behind a request that was written, its answer is waited for. -/
theorem request_of_sent {record : Tlv} {limit : Nat} {talk middle : Conversation}
    (sent : send record limit (mark true talk) = (some (.ok ()), middle)) :
    request record limit talk =
      finished (awaitAnswer
        (middle.session.limits.responseTimeout.map (middle.timeline.now + ·)) limit middle) := by
  unfold request
  rw [marked_apply, Act.bind_apply, sent]

/-- A request that is answered was written. -/
theorem exists_sent_of_answered {record answer : Tlv} {limit : Nat} {talk after : Conversation}
    (answered : request record limit talk = (some (.ok (some answer)), after)) :
    ∃ middle, send record limit (mark true talk) = (some (.ok ()), middle) := by
  unfold request at answered
  rw [marked_apply, Act.bind_apply] at answered
  cases sent : send record limit (mark true talk) with
  | mk result middle =>
    rw [sent] at answered
    cases result with
    | none => cases answered
    | some result =>
        cases result with
        | error error => cases answered
        | ok => exact ⟨middle, rfl⟩

/-- **A request that is answered is written, and then its answer is read.** -/
theorem request_answered {record answer : Tlv} {limit : Nat} {talk after : Conversation}
    (answered : request record limit talk = (some (.ok (some answer)), after)) :
    ∃ writing reading, Answered talk record answer writing reading after := by
  obtain ⟨middle, sent⟩ := exists_sent_of_answered answered
  obtain ⟨link, pieces, wrote⟩ := send_ok sent
  have kept : middle.session.received = talk.session.received := wrote.received
  rw [request_of_sent sent] at answered
  obtain ⟨final, awaited, rfl⟩ := exists_of_finished answered
  obtain ⟨reading, log, unwritten, first⟩ := awaitAnswer_answered wrote.phase awaited
  refine ⟨transmission link.id pieces, reading, ?_⟩
  constructor
  case log =>
    refine log.trans ?_
    rw [wrote.log, List.append_assoc]
    rfl
  case asked =>
    rw [writes_transmission]
    exact wrote.encoded
  case undelivered => exact deliveries_transmission ..
  case unwritten => exact unwritten
  case first =>
    rw [← kept]
    exact first
  case unread =>
    intro stale rest buffered
    rw [← kept] at buffered
    have same := awaitAnswer_buffered buffered awaited
    rw [log, List.append_right_eq_self] at same
    rw [same]
    rfl

/-! ## Requests in a history -/

/-- **A request is answered out of what was delivered since it was written exactly
when the buffer was empty before it.** Among all octets delivered, the answer stands
at one place, which may be anywhere behind the octets that earlier calls took. It
stands behind everything delivered up to the last octet of the request exactly when
those calls left nothing in the buffer: when they returned no error, this is to say
that they returned every record delivered before and that no part of another was.
A record that they left is the answer, and then nothing is read at all. -/
theorem request_after_run (calls : List (Call × Nat)) {start after : Conversation}
    {record answer : Tlv} {limit : Nat} (empty : start.session.received = [])
    (answered : request record limit (run calls start).2 = (some (.ok (some answer)), after)) :
    ∃ (earlier writing reading : List Event) (before spelling : Octets),
      (run calls start).2.timeline.log = start.timeline.log ++ earlier ∧
      Answered (run calls start).2 record answer writing reading after ∧
      deliveries earlier = before ++ (run calls start).2.session.received ∧
      deliveries (earlier ++ writing ++ reading) =
        before ++ spelling ++ after.session.received ∧
      (∀ other, Tlv.split? (spelling ++ other) = some (answer, other)) ∧
      (deliveries (earlier ++ writing) <+: before ↔
        (run calls start).2.session.received = []) ∧
      ((∀ past ∈ (run calls start).1, past.isError = false) →
        ((run calls start).2.session.received = [] ↔
          Tlv.parse (deliveries earlier) = ⟨returned (run calls start).1, []⟩)) ∧
      ∀ stale rest, Tlv.split? (run calls start).2.session.received = some (stale, rest) →
        answer = stale ∧ deliveries reading = [] := by
  obtain ⟨taken, _, moves, exact⟩ := run_moves calls start
  obtain ⟨earlier, ledger⟩ := moves.exists_ledger
  have takes := ledger.takes
  rw [empty, List.nil_append] at takes
  obtain ⟨before, cut⟩ := takes.exists_spelling
  obtain ⟨writing, reading, course⟩ := request_answered answered
  obtain ⟨spelling, front, stable⟩ := Tlv.exists_spelling_of_split? course.first
  have asked : deliveries (earlier ++ writing) = before ++ (run calls start).2.session.received := by
    rw [deliveries_append, course.undelivered, List.append_nil, cut]
  refine ⟨earlier, writing, reading, before, spelling, ledger.log, course, cut, ?_, stable, ?_, ?_,
    ?_⟩
  · rw [deliveries_append, asked, List.append_assoc, front, List.append_assoc]
  · rw [asked]
    constructor
    · intro within
      have short := within.length_le
      rw [List.length_append] at short
      exact List.eq_nil_of_length_eq_zero (by omega)
    · intro none
      exact ⟨[], by rw [none, List.append_nil, List.append_nil]⟩
  · intro clean
    rw [takes.parse_eq, exact clean]
    constructor
    · intro none
      rw [none, Tlv.parse_nil, List.append_nil]
    · intro whole
      simp only [Tlv.Parsed.mk.injEq, List.append_right_eq_self] at whole
      have all := Tlv.takes_parse (run calls start).2.session.received
      rw [whole.1, whole.2] at all
      exact all.eq_of_nil.symm
  · intro stale rest buffered
    have nothing := course.unread stale rest buffered
    have first := course.first
    rw [nothing, List.append_nil, buffered] at first
    cases first
    exact ⟨rfl, nothing⟩

/-- A device that answers the first request with two records, and the second one at
100 milliseconds. -/
def talkative : Conversation where
  session := ⟨.established,
    some ⟨0, ⟨[.octets [0x82, 1, 65, 0x82, 1, 66] 0, .octets [0x82, 1, 67] 100], [], [], .orderly⟩⟩,
    none, [], .default, false⟩
  timeline := .start

/-- The second request is answered by the record behind the first answer, which was
delivered before it was written, and nothing is delivered afterwards. -/
theorem request_answered_by_leftover :
    ∃ after,
      request ⟨0x82, [50]⟩ 1000 (run [(.request ⟨0x82, [49]⟩, 1000)] talkative).2 =
        (some (.ok (some ⟨0x82, [66]⟩)), after) ∧
      after.timeline.log =
        [.wrote 0 [0x82, 1, 49], .flushing 0, .flushed 0,
          .delivered 0 [0x82, 1, 65, 0x82, 1, 66],
          .wrote 0 [0x82, 1, 50], .flushing 0, .flushed 0] := by
  refine ⟨(request ⟨0x82, [50]⟩ 1000 (run [(.request ⟨0x82, [49]⟩, 1000)] talkative).2).2,
    Prod.ext ?_ rfl, ?_⟩
  · decide +kernel
  · decide +kernel

/-- When the record behind the first answer is taken by a batch, the second request is
answered by what is delivered after it. -/
theorem request_after_batch :
    ∃ (earlier writing reading : List Event) (before spelling : Octets),
      Tlv.parse (deliveries earlier) = ⟨[⟨0x82, [65]⟩, ⟨0x82, [66]⟩], []⟩ ∧
      deliveries (earlier ++ writing ++ reading) = before ++ spelling ++ [] ∧
      (∀ other, Tlv.split? (spelling ++ other) = some (⟨0x82, [67]⟩, other)) ∧
      deliveries (earlier ++ writing) <+: before := by
  have answered : request ⟨0x82, [50]⟩ 1000
      (run [(.request ⟨0x82, [49]⟩, 1000), (.receive 10 10, 1000)] talkative).2 =
        (some (.ok (some ⟨0x82, [67]⟩)), _) :=
    Prod.ext (by decide +kernel) rfl
  obtain ⟨earlier, writing, reading, before, spelling, -, -, -, whole, stable, exact, seen, -⟩ :=
    request_after_run _ rfl answered
  refine ⟨earlier, writing, reading, before, spelling, ?_, whole.trans ?_, stable, exact.mpr ?_⟩
  · refine ((seen ?_).mp ?_).trans ?_
    all_goals decide +kernel
  · exact congrArg (before ++ spelling ++ ·) (by decide +kernel)
  · decide +kernel

end Commissioner.Conversation
