import Commissioner.Proofs.Session.Outgoing
import Commissioner.Proofs.Session.Pieces

/-!
# What a request comes to

Behind the write of a request its answer is waited for, up to a deadline if there is one, which
counts from the end of the write. What comes of the wait follows from the course that the pieces
take up to its horizon (`Timeline.horizon`): a record is complete (`awaitAnswer_completed`,
`awaitAnswer_tooLong`), the stream ends or fails (`awaitAnswer_met`), or neither
(`awaitAnswer_lapsed`).

When time is up, the link is shut down, which takes two seconds when the far end does not answer
to it. So the call is dropped just when its limit comes before the deadline and that
(`awaitAnswer_dropped_iff`). In each of the other cases a call that returns nothing leaves the
session closed, and what arrives then is never delivered (`Over`). The whole is
`request_outcome`.
-/

set_option autoImplicit false

namespace Commissioner

/-! ## Closing -/

/-- How long the orderly shutdown of a link lasts, when it is not dropped. -/
def Script.closingTime (script : Script) : Nat :=
  if script.shutdown = .stall then closeTimeout else 0

theorem Script.closingTime_le (script : Script) : script.closingTime ≤ closeTimeout := by
  unfold closingTime
  split
  next => exact Nat.le_refl _
  next => exact Nat.zero_le _

namespace Conversation

/-- Closing lasts as long as the shutdown of the link, and is dropped just when its limit comes
before that. -/
theorem close_of_link (limit : Nat) {talk : Conversation} {link : Link}
    (held : talk.session.link = some link) :
    ((close limit talk).1 = none ↔
      max talk.timeline.now limit < talk.timeline.now + link.far.closingTime) ∧
    ∀ after, close limit talk = (some (), after) →
      after.timeline.now = talk.timeline.now + link.far.closingTime := by
  let told := talk.timeline.note (.shutDown link.id)
  by_cases stalls : link.far.shutdown = .stall
  case pos =>
    have lasts : link.far.closingTime = closeTimeout := if_pos stalls
    by_cases near : told.now + closeTimeout ≤ max told.now limit
    case pos =>
      have waited : told.wait none (some (told.now + closeTimeout)) limit =
          (.expired, told.advance (told.now + closeTimeout)) :=
        Timeline.wait_of_lapsed (Nat.le_add_right ..) near (by simp)
      have closes : close limit talk =
          (some (), shut { talk with timeline := told.advance (told.now + closeTimeout) }) := by
        simp only [close, held, if_pos stalls]
        rw [waited]
      rw [closes, lasts]
      refine ⟨iff_of_false (Option.some_ne_none _) (Nat.not_lt.mpr near), ?_⟩
      rintro after ⟨⟩
      rw [now_shut]
      exact Nat.max_eq_right (Nat.le_add_right ..)
    case neg =>
      have waited : told.wait none (some (told.now + closeTimeout)) limit =
          (.dropped, told.advance limit) := by
        refine Timeline.wait_of_dropped (by simp) ?_
        rintro bound ⟨⟩
        exact Nat.not_le.mp near
      have dropped : (close limit talk).1 = none := by
        simp only [close, held, if_pos stalls]
        rw [waited]
      rw [lasts]
      refine ⟨iff_of_true dropped (Nat.not_le.mp near), fun after closes => ?_⟩
      rw [closes] at dropped
      cases dropped
  case neg =>
    have lasts : link.far.closingTime = 0 := if_neg stalls
    have waited : told.wait (some told.now) (some (told.now + closeTimeout)) limit =
        (.ready, told.advance told.now) := by
      refine Timeline.wait_of_le_horizon ?_
      simp only [Timeline.horizon]
      exact Nat.le_min.mpr ⟨Nat.le_add_right .., Nat.le_max_left ..⟩
    have closes : close limit talk =
        (some (), shut { talk with timeline := told.advance told.now }) := by
      simp only [close, held, if_neg stalls]
      rw [waited]
    rw [closes, lasts]
    refine ⟨iff_of_false (Option.some_ne_none _) (Nat.not_lt.mpr (Nat.le_max_left ..)), ?_⟩
    rintro after ⟨⟩
    rw [now_shut]
    exact Nat.max_self _

/-! ## Waiting for the answer -/

section Answer

variable {limit : Nat} {deadline : Option Nat} {talk : Conversation} {link : Link}

/-- **Waiting for an answer goes on behind the parts that are read** while no record is
complete. -/
theorem awaitAnswer_of_consumes {later : List Arrival} {parts : List Part}
    (held : talk.session.link = some link)
    (early : ∀ bound ∈ deadline, talk.timeline.now ≤ bound)
    (consumes : Consumes (talk.timeline.horizon deadline limit) talk.session.received
      (link.far.pieces talk.session.limits.readSize) parts later) :
    ∃ middle,
      Heard talk link talk.session.limits.readSize (talk.timeline.horizon deadline limit) parts
        later middle ∧
      middle.timeline.horizon deadline limit = talk.timeline.horizon deadline limit ∧
      awaitAnswer deadline limit talk = awaitAnswer deadline limit middle := by
  obtain ⟨middle, heard, ends, reads⟩ :=
    exists_heard consumes held rfl rfl rfl (now_le_horizon early)
  exact ⟨middle, heard, ends, reads.awaitAnswer_eq rfl⟩

/-- What is complete by the horizon is the answer when it fits. -/
theorem awaitAnswer_completed {parts : List Part} {record : Tlv} {rest : Octets}
    (held : talk.session.link = some link)
    (early : ∀ bound ∈ deadline, talk.timeline.now ≤ bound)
    (completes : Completes (talk.timeline.horizon deadline limit) talk.session.received
      (link.far.pieces talk.session.limits.readSize) parts)
    (taken : Tlv.split? (talk.session.received ++ joined parts) = some (record, rest))
    (fits : record.value.length ≤ talk.session.limits.maxValue) :
    ∃ later middle,
      Heard talk link talk.session.limits.readSize (talk.timeline.horizon deadline limit) parts
        later middle ∧
      awaitAnswer deadline limit talk =
        (some (.ok (some record)),
          { middle with session := { middle.session with received := rest } }) := by
  obtain ⟨later, consumes, -⟩ := completes
  obtain ⟨middle, heard, -, goesOn⟩ :=
    awaitAnswer_of_consumes held early consumes
  refine ⟨later, middle, heard, ?_⟩
  rw [← heard.received_eq] at taken
  have small : record.value.length ≤ middle.session.framing.limit := by
    rw [Session.framing_congr heard.limits_eq]
    exact Nat.le_min.mpr ⟨fits, Tlv.length_value_le taken⟩
  rw [goesOn, awaitAnswer_of_split? taken small]

/-- When it does not fit, that is the error, and the session is closed. -/
theorem awaitAnswer_tooLong {parts : List Part} {record : Tlv} {rest : Octets}
    (held : talk.session.link = some link)
    (early : ∀ bound ∈ deadline, talk.timeline.now ≤ bound)
    (completes : Completes (talk.timeline.horizon deadline limit) talk.session.received
      (link.far.pieces talk.session.limits.readSize) parts)
    (taken : Tlv.split? (talk.session.received ++ joined parts) = some (record, rest))
    (tooLong : talk.session.limits.maxValue < record.value.length) :
    ∃ after, awaitAnswer deadline limit talk =
        (some (.error (.framing (.record (talk.session.framing.refusal record.value.length)))),
          after) ∧
      after.session.phase = .closed ∧
      after.timeline.now ≤ talk.timeline.horizon deadline limit := by
  obtain ⟨later, consumes, -⟩ := completes
  obtain ⟨middle, heard, -, goesOn⟩ :=
    awaitAnswer_of_consumes held early consumes
  have same := Session.framing_congr heard.limits_eq
  rw [← heard.received_eq] at taken
  have found : middle.session.framing.next middle.session.received =
      .tooLarge record.value.length rest := by
    refine Framing.next_eq_tooLarge.mpr ⟨record, taken, rfl, ?_⟩
    rw [same]
    exact Nat.lt_of_le_of_lt (Nat.min_le_left ..) tooLong
  refine ⟨shut { middle with session := { middle.session with received := rest } }, ?_, rfl, ?_⟩
  · rw [goesOn, awaitAnswer, found, same]
  · rw [now_shut]
    exact heard.inTime

/-- When the stream ends or fails by the horizon, the session is closed. -/
theorem awaitAnswer_met {given : ReadResult} (held : talk.session.link = some link)
    (early : ∀ bound ∈ deadline, talk.timeline.now ≤ bound)
    (meets : Meets (talk.timeline.horizon deadline limit) talk.session.received
      (link.far.pieces talk.session.limits.readSize) given)
    (last : ∀ octets, given ≠ .octets octets) :
    ∃ after, after.session.phase = .closed ∧
      after.timeline.now ≤ talk.timeline.horizon deadline limit ∧
      (given = .finished → awaitAnswer deadline limit talk = (some (.ok none), after)) ∧
      ∀ fault, given = .fault fault →
        awaitAnswer deadline limit talk = (some (.error (.fault fault)), after) := by
  obtain ⟨parts, piece, later, consumes, nothing, inTime, rfl⟩ := meets
  obtain ⟨middle, heard, ends, goesOn⟩ :=
    awaitAnswer_of_consumes held early consumes
  obtain ⟨far, linked, pieces, -⟩ := heard.held
  rw [← heard.received_eq] at nothing
  have there : piece.due ≤ middle.timeline.horizon deadline limit := by
    rw [ends]
    exact inTime
  rw [← heard.limits_eq] at pieces
  have read := read_of_piece linked pieces there
  refine ⟨shut { middle with timeline := middle.timeline.advance piece.due }, rfl, ?_, ?_, ?_⟩
  · rw [now_shut]
    exact Nat.max_le.mpr ⟨heard.inTime, inTime⟩
  · intro gives
    rw [gives] at read
    rw [goesOn, awaitAnswer_of_nothing nothing, read]
  · intro fault gives
    rw [gives] at read
    rw [goesOn, awaitAnswer_of_nothing nothing, read]

/-- When nothing is complete by the horizon and the stream goes on, the call is dropped there, or
time is up and the link is shut down. -/
theorem awaitAnswer_lapsed {parts : List Part} (held : talk.session.link = some link)
    (early : ∀ bound ∈ deadline, talk.timeline.now ≤ bound)
    (lapses : Lapses (talk.timeline.horizon deadline limit) talk.session.received
      (link.far.pieces talk.session.limits.readSize) parts) :
    ((awaitAnswer deadline limit talk).1 = none ↔
      ∀ bound ∈ deadline, max talk.timeline.now limit < bound + link.far.closingTime) ∧
    ∀ result after, awaitAnswer deadline limit talk = (some result, after) →
      talk.timeline.horizon deadline limit ∈ deadline ∧ result = .ok none ∧
        after.session.phase = .closed ∧
        after.timeline.now = talk.timeline.horizon deadline limit + link.far.closingTime := by
  obtain ⟨later, consumes, nothing, late⟩ := lapses
  obtain ⟨middle, heard, -, goesOn⟩ := awaitAnswer_of_consumes held early consumes
  obtain ⟨far, linked, rfl, shutdown⟩ := heard.held
  have notBefore := heard.notBefore
  have inTime := heard.inTime
  have within : talk.timeline.horizon deadline limit ≤ max talk.timeline.now limit :=
    Timeline.horizon_le
  have still : max middle.timeline.now limit = max talk.timeline.now limit := by omega
  rw [← heard.received_eq] at nothing
  by_cases ahead : ∀ bound ∈ deadline, max talk.timeline.now limit < bound
  case pos =>
    rw [Timeline.horizon_of_ahead ahead, ← still] at late
    have dropped : (awaitAnswer deadline limit talk).1 = none := by
      rw [goesOn, awaitAnswer_of_nothing nothing, heard.limits_eq,
        read_of_dropped linked late (by rw [still]; exact ahead)]
    refine ⟨iff_of_true dropped fun bound bounded => ?_, fun result after returned => ?_⟩
    · exact Nat.lt_of_lt_of_le (ahead bound bounded) (Nat.le_add_right ..)
    · rw [returned] at dropped
      cases dropped
  case neg =>
    obtain ⟨bound, bounded, near⟩ : ∃ bound ∈ deadline, bound ≤ max talk.timeline.now limit := by
      by_contra none
      exact ahead fun bound bounded => Nat.lt_of_not_le fun near => none ⟨bound, bounded, near⟩
    have same := Timeline.horizon_eq bounded near
    rw [same] at late inTime ⊢
    cases bounded
    let expired : Conversation := { middle with timeline := middle.timeline.advance bound }
    have lapses : read middle.session.limits.readSize (some bound) limit middle =
        (some (.ok .expired), expired) := by
      rw [heard.limits_eq]
      exact read_of_lapsed linked inTime (by rw [still]; exact near) late
    have now : expired.timeline.now = bound := Nat.max_eq_right inTime
    have lasts : far.closingTime = link.far.closingTime := by
      unfold Script.closingTime
      rw [shutdown]
    have kept : expired.session.link = some ⟨link.id, far⟩ := linked
    obtain ⟨drops, lasting⟩ := close_of_link limit kept
    have moment : max bound limit = max talk.timeline.now limit := by omega
    rw [now, lasts, moment] at drops
    rw [now, lasts] at lasting
    cases ended : close limit expired with
    | mk value after =>
      rw [goesOn, awaitAnswer_of_expired nothing lapses ended]
      rw [ended] at drops lasting
      cases value with
      | none =>
          refine ⟨⟨fun _ => ?_, fun _ => rfl⟩, fun result other returned => by cases returned⟩
          rintro other ⟨⟩
          exact drops.mp rfl
      | some =>
          refine ⟨⟨fun impossible => (by cases impossible), fun before => ?_⟩, ?_⟩
          · cases drops.mpr (before bound rfl)
          · intro result other returned
            cases returned
            exact ⟨rfl, rfl, phase_of_close ended, lasting after rfl⟩

/-- What comes for an answer by a moment, if a value may be no longer than a bound. -/
inductive AnswerCourse (last bound : Nat) (buffer : Octets) (pieces : List Arrival) : Prop where
  | completed {parts : List Part} {record : Tlv} {rest : Octets}
      (completes : Completes last buffer pieces parts)
      (taken : Tlv.split? (buffer ++ joined parts) = some (record, rest))
      (fits : record.value.length ≤ bound)
  | tooLong {parts : List Part} {record : Tlv} {rest : Octets}
      (completes : Completes last buffer pieces parts)
      (taken : Tlv.split? (buffer ++ joined parts) = some (record, rest))
      (tooLong : bound < record.value.length)
  | ended (ends : Meets last buffer pieces .finished)
  | failed {fault : Fault} (fails : Meets last buffer pieces (.fault fault))
  | lapsed {parts : List Part} (lapses : Lapses last buffer pieces parts)

theorem answerCourse (last bound : Nat) (buffer : Octets) (pieces : List Arrival) :
    AnswerCourse last bound buffer pieces := by
  rcases Consumes.exists_course last buffer pieces with
    ⟨parts, completes⟩ | ends | ⟨fault, fails⟩ | ⟨parts, lapses⟩
  · have ⟨_, _, complete⟩ := completes
    obtain ⟨⟨record, rest⟩, taken⟩ := Option.ne_none_iff_exists'.mp complete
    rcases Nat.lt_or_ge bound record.value.length with tooLong | fits
    · exact .tooLong completes taken tooLong
    · exact .completed completes taken fits
  · exact .ended ends
  · exact .failed fails
  · exact .lapsed lapses

/-- **The wait for an answer is dropped just when** nothing comes of it by its horizon, and the
limit lies before the deadline and the shutdown behind that. -/
theorem awaitAnswer_dropped_iff (held : talk.session.link = some link)
    (early : ∀ bound ∈ deadline, talk.timeline.now ≤ bound) :
    (awaitAnswer deadline limit talk).1 = none ↔
      (∃ parts, Lapses (talk.timeline.horizon deadline limit) talk.session.received
        (link.far.pieces talk.session.limits.readSize) parts) ∧
      ∀ bound ∈ deadline, max talk.timeline.now limit < bound + link.far.closingTime := by
  constructor
  · intro dropped
    cases answerCourse (talk.timeline.horizon deadline limit) talk.session.limits.maxValue
      talk.session.received (link.far.pieces talk.session.limits.readSize) with
    | completed completes taken fits =>
        obtain ⟨_, _, -, gives⟩ := awaitAnswer_completed held early completes taken fits
        rw [gives] at dropped
        cases dropped
    | tooLong completes taken tooLong =>
        obtain ⟨_, gives, -⟩ := awaitAnswer_tooLong held early completes taken tooLong
        rw [gives] at dropped
        cases dropped
    | ended ends =>
        obtain ⟨_, -, -, gives, -⟩ := awaitAnswer_met held early ends nofun
        rw [gives rfl] at dropped
        cases dropped
    | @failed fault fails =>
        obtain ⟨_, -, -, -, gives⟩ := awaitAnswer_met held early fails nofun
        rw [gives fault rfl] at dropped
        cases dropped
    | lapsed lapses => exact ⟨⟨_, lapses⟩, (awaitAnswer_lapsed held early lapses).1.mp dropped⟩
  · rintro ⟨⟨parts, lapses⟩, ahead⟩
    exact (awaitAnswer_lapsed held early lapses).1.mpr ahead

end Answer

/-! ## Closed for good -/

/-- Nothing more comes of a session, whatever is asked of it. -/
structure Over (talk : Conversation) : Prop where
  closed : talk.session.phase = .closed
  /-- Every call that belongs to a phase is told so. -/
  refused : ∀ (calls : List (Call × Nat)) (call : Call) (limit : Nat), call.phase? ≠ none →
    (call.perform limit (run calls talk).2).1 = .failed .closed
  /-- No record is returned, and nothing is delivered or written. -/
  silent : ∀ calls : List (Call × Nat), returned (run calls talk).1 = [] ∧
    ∃ events, (run calls talk).2.timeline.log = talk.timeline.log ++ events ∧
      deliveries events = [] ∧ writes events = []

/-- A call on a closed session returns no record. -/
theorem records_of_closed {talk : Conversation} (closed : talk.session.phase = .closed)
    (call : Call) (limit : Nat) : (call.perform limit talk).1.records = [] := by
  cases belongs : call.phase? with
  | some expected =>
      have other : talk.session.phase ≠ expected := by
        rw [closed]
        rintro rfl
        cases call <;> cases belongs
      obtain ⟨unfinished, refused⟩ := perform_of_phase_ne belongs other limit
      rw [refused]
      rfl
  | none =>
      cases call with
      | pass => rfl
      | close =>
          simp only [Call.perform]
          rcases (close limit talk).1 with _ | _ <;> rfl
      | _ => cases belongs

/-- **A closed session is over.** -/
theorem over_of_closed {talk : Conversation} (closed : talk.session.phase = .closed) :
    Over talk := by
  have stays : ∀ calls, (run calls talk).2.session.phase = .closed := by
    intro calls
    obtain ⟨_, _, moves, -⟩ := run_moves calls talk
    have forward := moves.place_le
    rw [closed] at forward
    exact Phase.eq_closed_of_le forward
  refine ⟨closed, fun calls call limit belongs => ?_, fun calls => ?_⟩
  · obtain ⟨expected, same⟩ := Option.ne_none_iff_exists'.mp belongs
    have other : (run calls talk).2.session.phase ≠ expected := by
      rw [stays calls]
      rintro rfl
      cases call <;> cases same
    obtain ⟨unfinished, refused⟩ := perform_of_phase_ne same other limit
    rw [refused, Session.refusal, if_pos (stays calls)]
  · clear stays
    induction calls generalizing talk with
    | nil => exact ⟨rfl, [], (List.append_nil _).symm, rfl, rfl⟩
    | cons next calls ih =>
        obtain ⟨call, limit⟩ := next
        obtain ⟨-, still, -⟩ := perform_of_closed closed call limit
        have waits := perform_waits (by rw [closed]; decide) (by rw [still]; decide)
          (Prod.eta (call.perform limit talk)).symm
        obtain ⟨events, log, quiet⟩ := waits.quiet
        obtain ⟨none, more, behind, undelivered, unwritten⟩ := ih still
        refine ⟨?_, events ++ more, ?_, ?_, ?_⟩
        · show (call.perform limit talk).1.records ++
            returned (run calls (call.perform limit talk).2).1 = []
          rw [records_of_closed closed, none, List.append_nil]
        · rw [run_cons, behind, log, List.append_assoc]
        · rw [deliveries_append, deliveries_of_quiet quiet, undelivered, List.append_nil]
        · rw [writes_append, writes_of_quiet quiet, unwritten, List.append_nil]

/-! ## The outcome -/

/-- What comes of a request behind its write, when its answer is waited for up to a deadline, if
there is one, and everything that arrives comes in these pieces. -/
structure AnswerOutcome (talk : Conversation) (link : Link) (pieces : List Arrival)
    (deadline : Option Nat) (result : Except SessionError (Option Tlv)) (after : Conversation) :
    Prop where
  /-- In time a record is complete, or the stream ends or fails; or the deadline passes before. -/
  course : (∃ moment, (∀ bound ∈ deadline, moment ≤ bound) ∧
      ((∃ parts, Completes moment talk.session.received pieces parts) ∨
        Meets moment talk.session.received pieces .finished ∨
        ∃ fault, Meets moment talk.session.received pieces (.fault fault))) ∨
    ∃ bound ∈ deadline, ∃ parts, Lapses bound talk.session.received pieces parts
  /-- The record that is complete first is the answer, and what was read behind it stays in the
  buffer. -/
  answered : ∀ moment parts record rest, (∀ bound ∈ deadline, moment ≤ bound) →
    Completes moment talk.session.received pieces parts →
    Tlv.split? (talk.session.received ++ joined parts) = some (record, rest) →
    record.value.length ≤ talk.session.limits.maxValue →
    result = .ok (some record) ∧ after.session.phase = .established ∧
      after.session.received = rest ∧
      after.timeline.log =
        talk.timeline.log ++ parts.map fun part => .delivered link.id part.octets
  tooLong : ∀ moment parts record rest, (∀ bound ∈ deadline, moment ≤ bound) →
    Completes moment talk.session.received pieces parts →
    Tlv.split? (talk.session.received ++ joined parts) = some (record, rest) →
    talk.session.limits.maxValue < record.value.length →
    result = .error (.framing (.record (talk.session.framing.refusal record.value.length))) ∧
      Over after
  failed : ∀ moment fault, (∀ bound ∈ deadline, moment ≤ bound) →
    Meets moment talk.session.received pieces (.fault fault) →
    result = .error (.fault fault) ∧ Over after
  /-- Nothing is given just when the stream ends in time, or time is up, before a record is
  complete. -/
  nothing_iff : result = .ok none ↔
    (∃ moment, (∀ bound ∈ deadline, moment ≤ bound) ∧
      Meets moment talk.session.received pieces .finished) ∨
    ∃ bound ∈ deadline, ∃ parts, Lapses bound talk.session.received pieces parts
  /-- And then nothing more comes of the session. -/
  nothing_over : result = .ok none → Over after
  /-- When time is up, the link is shut down. -/
  lapsed : ∀ bound ∈ deadline, ∀ parts, Lapses bound talk.session.received pieces parts →
    after.timeline.now = bound + link.far.closingTime
  inTime : ∀ bound ∈ deadline, after.timeline.now ≤ bound + closeTimeout

/-- The mark of a request that is finished is no part of its outcome. -/
theorem AnswerOutcome.finish {talk after : Conversation} {link : Link} {pieces : List Arrival}
    {deadline : Option Nat} {result : Except SessionError (Option Tlv)}
    (outcome : AnswerOutcome talk link pieces deadline result after) :
    AnswerOutcome talk link pieces deadline result (mark false after) where
  course := outcome.course
  answered := outcome.answered
  tooLong := fun moment parts record rest inTime completes taken tooLong =>
    (outcome.tooLong moment parts record rest inTime completes taken tooLong).imp_right
      fun ends => over_of_closed ends.closed
  failed := fun moment fault inTime fails =>
    (outcome.failed moment fault inTime fails).imp_right fun ends => over_of_closed ends.closed
  nothing_iff := outcome.nothing_iff
  nothing_over := fun nothing => over_of_closed (outcome.nothing_over nothing).closed
  lapsed := outcome.lapsed
  inTime := outcome.inTime

section Outcome

variable {limit : Nat} {deadline : Option Nat} {talk after : Conversation} {link : Link}
  {result : Except SessionError (Option Tlv)}

/-- A wait that is not dropped ends in time, or with the shutdown of the link. When it brings
nothing, the stream has ended or time is up, and the session is closed. -/
theorem awaitAnswer_settled (held : talk.session.link = some link)
    (early : ∀ bound ∈ deadline, talk.timeline.now ≤ bound)
    (returned : awaitAnswer deadline limit talk = (some result, after)) :
    (result = .ok none →
      (Meets (talk.timeline.horizon deadline limit) talk.session.received
          (link.far.pieces talk.session.limits.readSize) .finished ∨
        talk.timeline.horizon deadline limit ∈ deadline ∧
          ∃ parts, Lapses (talk.timeline.horizon deadline limit) talk.session.received
            (link.far.pieces talk.session.limits.readSize) parts) ∧
        after.session.phase = .closed) ∧
      after.timeline.now ≤ talk.timeline.horizon deadline limit + closeTimeout := by
  have soon : ∀ {moment}, moment ≤ talk.timeline.horizon deadline limit →
      moment ≤ talk.timeline.horizon deadline limit + closeTimeout :=
    fun within => Nat.le_trans within (Nat.le_add_right ..)
  cases answerCourse (talk.timeline.horizon deadline limit) talk.session.limits.maxValue
    talk.session.received (link.far.pieces talk.session.limits.readSize) with
  | completed completes taken fits =>
      obtain ⟨_, _, heard, gives⟩ := awaitAnswer_completed held early completes taken fits
      cases gives.symm.trans returned
      exact ⟨nofun, soon heard.inTime⟩
  | tooLong completes taken tooLong =>
      obtain ⟨_, gives, -, within⟩ := awaitAnswer_tooLong held early completes taken tooLong
      cases gives.symm.trans returned
      exact ⟨nofun, soon within⟩
  | ended ends =>
      obtain ⟨_, closed, within, gives, -⟩ := awaitAnswer_met held early ends nofun
      cases (gives rfl).symm.trans returned
      exact ⟨fun _ => ⟨.inl ends, closed⟩, soon within⟩
  | @failed fault fails =>
      obtain ⟨_, closed, within, -, gives⟩ := awaitAnswer_met held early fails nofun
      cases (gives fault rfl).symm.trans returned
      exact ⟨nofun, soon within⟩
  | lapsed lapses =>
      obtain ⟨bounded, -, closed, now⟩ :=
        (awaitAnswer_lapsed held early lapses).2 result after returned
      refine ⟨fun _ => ⟨.inr ⟨bounded, _, lapses⟩, closed⟩, ?_⟩
      rw [now]
      exact Nat.add_le_add_left link.far.closingTime_le _

/-- What a wait for an answer that is not dropped comes to. -/
theorem awaitAnswer_outcome (established : talk.session.phase = .established)
    (held : talk.session.link = some link)
    (early : ∀ bound ∈ deadline, talk.timeline.now ≤ bound)
    (returned : awaitAnswer deadline limit talk = (some result, after)) :
    AnswerOutcome talk link (link.far.pieces talk.session.limits.readSize) deadline result
      after := by
  have settled := awaitAnswer_settled held early returned
  have timely : ∀ bound ∈ deadline, talk.timeline.horizon deadline limit ≤ bound :=
    fun _ bounded => Timeline.horizon_le_deadline bounded
  -- Where the wait was not dropped, its horizon is the deadline, or it did not come to that.
  have decided : (∀ front, ¬ Lapses (talk.timeline.horizon deadline limit) talk.session.received
        (link.far.pieces talk.session.limits.readSize) front) ∨
      talk.timeline.horizon deadline limit ∈ deadline := by
    by_cases bounded : talk.timeline.horizon deadline limit ∈ deadline
    · exact .inr bounded
    · exact .inl fun front lapses =>
        bounded ((awaitAnswer_lapsed held early lapses).2 result after returned).1
  have last : ∀ bound ∈ deadline, ∀ parts, Lapses bound talk.session.received
      (link.far.pieces talk.session.limits.readSize) parts →
      result = .ok none ∧ after.timeline.now = bound + link.far.closingTime := by
    intro bound bounded parts lapses
    have same := lapses.restrict decided bounded (timely bound bounded)
    rw [← same] at lapses ⊢
    obtain ⟨-, nothing, -, now⟩ := (awaitAnswer_lapsed held early lapses).2 result after returned
    exact ⟨nothing, now⟩
  constructor
  case course =>
    rcases Consumes.exists_course (talk.timeline.horizon deadline limit) talk.session.received
      (link.far.pieces talk.session.limits.readSize) with
      completes | ends | fails | ⟨parts, lapses⟩
    · exact .inl ⟨_, timely, .inl completes⟩
    · exact .inl ⟨_, timely, .inr (.inl ends)⟩
    · exact .inl ⟨_, timely, .inr (.inr fails)⟩
    · rcases decided with never | bounded
      · exact absurd lapses (never parts)
      · exact .inr ⟨_, bounded, parts, lapses⟩
  case answered =>
    intro moment parts record rest inTime completes taken fits
    obtain ⟨_, middle, heard, gives⟩ :=
      awaitAnswer_completed held early (completes.restrict decided inTime) taken fits
    cases gives.symm.trans returned
    exact ⟨rfl, heard.phase_eq.trans established, rfl, heard.log⟩
  case tooLong =>
    intro moment parts record rest inTime completes taken tooLong
    obtain ⟨other, gives, closed, -⟩ :=
      awaitAnswer_tooLong held early (completes.restrict decided inTime) taken tooLong
    cases gives.symm.trans returned
    exact ⟨rfl, over_of_closed closed⟩
  case failed =>
    intro moment fault inTime fails
    obtain ⟨other, closed, -, -, gives⟩ :=
      awaitAnswer_met held early (fails.restrict decided inTime) nofun
    cases (gives fault rfl).symm.trans returned
    exact ⟨rfl, over_of_closed closed⟩
  case nothing_iff =>
    constructor
    · intro nothing
      rcases (settled.1 nothing).1 with ends | ⟨bounded, lapses⟩
      · exact .inl ⟨_, timely, ends⟩
      · exact .inr ⟨_, bounded, lapses⟩
    · rintro (⟨moment, inTime, ends⟩ | ⟨bound, bounded, parts, lapses⟩)
      · obtain ⟨other, -, -, gives, -⟩ :=
          awaitAnswer_met held early (ends.restrict decided inTime) nofun
        cases (gives rfl).symm.trans returned
        rfl
      · exact (last bound bounded parts lapses).1
  case nothing_over => exact fun nothing => over_of_closed (settled.1 nothing).2
  case lapsed => exact fun bound bounded parts lapses => (last bound bounded parts lapses).2
  case inTime =>
    intro bound bounded
    exact Nat.le_trans settled.2 (Nat.add_le_add_right (timely bound bounded) _)

end Outcome

/-- **What a request comes to**, for everything that can arrive. Its answer is waited for from the
end of the write on, which includes the wait for the link to pass the request on, up to one
deadline, if there is one, however many pieces there are, and what is there at the deadline counts.
A request that brings nothing leaves the session closed for good. Once it is written it is dropped
just when it comes to nothing by its limit, and the deadline and the shutdown behind it are not
over by then. -/
theorem request_outcome {record : Tlv} {limit : Nat} {talk middle : Conversation} {link : Link}
    (sent : send record limit (mark true talk) = (some (.ok ()), middle))
    (held : middle.session.link = some link) :
    let deadline := middle.session.limits.responseTimeout.map (middle.timeline.now + ·)
    let pieces := link.far.pieces middle.session.limits.readSize
    (talk.timeline.now ≤ middle.timeline.now ∧
      middle.timeline.now ≤ max talk.timeline.now limit ∧
      middle.session.received = talk.session.received ∧
      middle.session.limits = talk.session.limits) ∧
    (∀ result after, request record limit talk = (some result, after) →
      AnswerOutcome middle link pieces deadline result after) ∧
    ((request record limit talk).1 = none ↔
      (∃ parts, Lapses (middle.timeline.horizon deadline limit) middle.session.received pieces
        parts) ∧
      ∀ bound ∈ deadline, max middle.timeline.now limit < bound + link.far.closingTime) := by
  intro deadline pieces
  obtain ⟨_, _, wrote⟩ := send_ok sent
  have early : ∀ bound ∈ deadline, middle.timeline.now ≤ bound := by
    intro bound bounded
    obtain ⟨span, -, rfl⟩ := Option.map_eq_some_iff.mp bounded
    exact Nat.le_add_right ..
  obtain ⟨notBefore, inTime⟩ := now_send sent
  refine ⟨⟨notBefore, inTime, wrote.received, wrote.limits⟩, fun result after returned => ?_, ?_⟩
  · rw [request_of_sent sent] at returned
    obtain ⟨last, awaited, rfl⟩ := exists_of_finished returned
    have outcome := awaitAnswer_outcome wrote.phase held early awaited
    exact outcome.finish
  · rw [request_of_sent sent, ← awaitAnswer_dropped_iff held early]
    rcases awaitAnswer deadline limit middle with ⟨_ | value, last⟩
    · exact Iff.rfl
    · exact Iff.rfl

/-- An established session that waits so long for answers. Its link keeps a write waiting up to 3
milliseconds and a flush up to 4, a record is complete on it at 9, and its shutdown never ends. -/
def patient (span : Nat) : Conversation where
  session := ⟨.established,
    some ⟨0, ⟨[.octets [0x82, 2, 65] 4, .octets [66, 1] 9, .octets [0] 20], [.upTo 1, .busy 3],
      [.busy 4], .stall⟩⟩,
    none, [], { Limits.default with responseTimeout := some span }, false⟩
  timeline := .start

/-- The time for the answer counts from the end of the write, and what is complete just at the
deadline is the answer. With a millisecond less time is up, and the session is closed for good two
seconds later. -/
theorem request_outcome_patient :
    (∃ middle link after,
      send ⟨0x82, [63]⟩ 5000 (mark true (patient 5)) = (some (.ok ()), middle) ∧
      middle.timeline.now = 4 ∧
      request ⟨0x82, [63]⟩ 5000 (patient 5) = (some (.ok (some ⟨0x82, [65, 66]⟩)), after) ∧
      AnswerOutcome middle link (link.far.pieces 4096) (some (4 + 5))
        (.ok (some ⟨0x82, [65, 66]⟩)) after ∧
      after.timeline.now = 9 ∧ after.session.received = [1]) ∧
    ∃ after,
      request ⟨0x82, [63]⟩ 5000 (patient 4) = (some (.ok none), after) ∧
      after.timeline.now = 2008 ∧ Over after := by
  have sent : ∀ span, send ⟨0x82, [63]⟩ 5000 (mark true (patient span)) =
      (some (.ok ()), (send ⟨0x82, [63]⟩ 5000 (mark true (patient span))).2) :=
    fun span => Prod.ext rfl rfl
  constructor
  · have given : (request ⟨0x82, [63]⟩ 5000 (patient 5)).1 =
        some (.ok (some ⟨0x82, [65, 66]⟩)) := by
      decide +kernel
    have moment : (request ⟨0x82, [63]⟩ 5000 (patient 5)).2.timeline.now = 9 := by decide +kernel
    have left : (request ⟨0x82, [63]⟩ 5000 (patient 5)).2.session.received = [1] := by
      decide +kernel
    obtain ⟨-, outcome, -⟩ := request_outcome (sent 5) rfl
    have returned : request ⟨0x82, [63]⟩ 5000 (patient 5) = (some _, _) := Prod.ext given rfl
    exact ⟨_, _, _, sent 5, rfl, returned, outcome _ _ returned, moment, left⟩
  · have given : (request ⟨0x82, [63]⟩ 5000 (patient 4)).1 = some (.ok none) := by decide +kernel
    have moment : (request ⟨0x82, [63]⟩ 5000 (patient 4)).2.timeline.now = 2008 := by
      decide +kernel
    obtain ⟨-, outcome, -⟩ := request_outcome (sent 4) rfl
    have returned : request ⟨0x82, [63]⟩ 5000 (patient 4) = (some _, _) := Prod.ext given rfl
    exact ⟨_, returned, moment, (outcome _ _ returned).nothing_over rfl⟩

end Conversation

end Commissioner
