import Commissioner.Proofs.Session.Pieces

/-!
# What comes of waiting for a batch

Waiting for a batch reads pieces in order until a record is complete, and takes one of the four
courses of every wait (`Consumes.exists_course`).

The deadline is fixed when the wait begins, and what is there at the deadline is still read.
Behind the pieces that are read by the horizon of the wait (`Timeline.horizon`) collecting goes
on as it would have begun there (`collect_of_consumes`), and what comes of it is one lemma for
each course. A wait is dropped just when its limit comes before its deadline and nothing comes
of it by then (`collect_dropped_iff`). The whole is `receive_outcome`.
-/

set_option autoImplicit false

namespace Commissioner

namespace Conversation

/-! ## Collecting -/

/-- Collecting fails when a complete record is too long, and closes the session. -/
theorem collect_of_tooLong (size deadline limit : Nat) {talk : Conversation} {record : Tlv}
    {front behind : List Tlv}
    (records : (Tlv.parse talk.session.received).records = front ++ record :: behind)
    (fit : ∀ earlier ∈ front, earlier.value.length ≤ talk.session.framing.limit)
    (tooLong : talk.session.framing.limit < record.value.length) :
    ∃ after, collect size deadline limit talk =
        (some (.error (.framing (.record (talk.session.framing.refusal record.value.length)))),
          after) ∧
      after.session.phase = .closed ∧ after.timeline.now = talk.timeline.now := by
  have refused := Framing.refused_drain records fit tooLong
  simp only [collect, drain, refused]
  exact ⟨_, rfl, rfl, now_shut _⟩

/-- Not before the wait began, and not behind a moment. -/
def InTime (talk : Conversation) (moment : Nat) (after : Conversation) : Prop :=
  talk.timeline.now ≤ after.timeline.now ∧ after.timeline.now ≤ moment

theorem forall_mem_some {α : Type} {holds : α → Prop} {value : α} (held : holds value) :
    ∀ other ∈ some value, holds other := by
  rintro _ ⟨⟩
  exact held

section Collect

variable {size deadline limit : Nat} {talk : Conversation} {link : Link}

/-- **Collecting goes on behind the parts that are read** while no record is complete. -/
theorem collect_of_consumes {parts : List Part} {later : List Arrival}
    (held : talk.session.link = some link) (early : talk.timeline.now ≤ deadline)
    (consumes : Consumes (talk.timeline.horizon (some deadline) limit) talk.session.received
      (link.far.pieces size) parts later) :
    ∃ middle,
      Heard talk link size (talk.timeline.horizon (some deadline) limit) parts later middle ∧
      middle.timeline.horizon (some deadline) limit =
        talk.timeline.horizon (some deadline) limit ∧
      collect size deadline limit talk = collect size deadline limit middle := by
  obtain ⟨middle, heard, ends, reads⟩ :=
    exists_heard consumes held rfl rfl rfl (now_le_horizon (forall_mem_some early))
  exact ⟨middle, heard, ends, reads.collect_eq⟩

/-- A value within the longest of the session and what a header can tell fits behind the parts. -/
theorem Heard.fits {last : Nat} {parts : List Part} {later : List Arrival} {middle : Conversation}
    (heard : Heard talk link size last parts later middle) {record : Tlv}
    (member : record ∈ (Tlv.parse (talk.session.received ++ joined parts)).records)
    (small : record.value.length ≤ talk.session.limits.maxValue) :
    record.value.length ≤ middle.session.framing.limit := by
  rw [Session.framing_congr heard.limits_eq]
  exact Nat.le_min.mpr ⟨small, Tlv.length_value_le_of_mem member⟩

/-- All records that are complete by the horizon are given when all fit. -/
theorem collect_completed {parts : List Part} (held : talk.session.link = some link)
    (early : talk.timeline.now ≤ deadline)
    (completes : Completes (talk.timeline.horizon (some deadline) limit) talk.session.received
      (link.far.pieces size) parts)
    (fit : ∀ record ∈ (Tlv.parse (talk.session.received ++ joined parts)).records,
      record.value.length ≤ talk.session.limits.maxValue) :
    ∃ later middle,
      Heard talk link size (talk.timeline.horizon (some deadline) limit) parts later middle ∧
      collect size deadline limit talk =
        (some (.ok (some (Tlv.parse (talk.session.received ++ joined parts)).records)),
          { middle with session := { middle.session with
            received := (Tlv.parse (talk.session.received ++ joined parts)).rest } }) := by
  obtain ⟨later, consumes, complete⟩ := completes
  obtain ⟨middle, heard, -, goesOn⟩ := collect_of_consumes held early consumes
  refine ⟨later, middle, heard, ?_⟩
  have small : ∀ record ∈ (Tlv.parse middle.session.received).records,
      record.value.length ≤ middle.session.framing.limit := by
    rw [heard.received_eq]
    exact fun record member => heard.fits member (fit record member)
  rw [← heard.received_eq] at complete ⊢
  rw [goesOn, collect_of_complete size deadline limit small complete]

/-- The first of them that is too long is the error, and the session is closed. -/
theorem collect_tooLong {parts : List Part} {record : Tlv} {front behind : List Tlv}
    (held : talk.session.link = some link) (early : talk.timeline.now ≤ deadline)
    (completes : Completes (talk.timeline.horizon (some deadline) limit) talk.session.received
      (link.far.pieces size) parts)
    (records : (Tlv.parse (talk.session.received ++ joined parts)).records =
      front ++ record :: behind)
    (fit : ∀ earlier ∈ front, earlier.value.length ≤ talk.session.limits.maxValue)
    (tooLong : talk.session.limits.maxValue < record.value.length) :
    ∃ after, collect size deadline limit talk =
        (some (.error (.framing (.record (talk.session.framing.refusal record.value.length)))),
          after) ∧
      after.session.phase = .closed ∧
      InTime talk (talk.timeline.horizon (some deadline) limit) after := by
  obtain ⟨later, consumes, -⟩ := completes
  obtain ⟨middle, heard, -, goesOn⟩ := collect_of_consumes held early consumes
  have same := Session.framing_congr heard.limits_eq
  have small : ∀ earlier ∈ front, earlier.value.length ≤ middle.session.framing.limit := by
    intro earlier member
    refine heard.fits ?_ (fit earlier member)
    rw [records]
    exact List.mem_append_left _ member
  have big : middle.session.framing.limit < record.value.length := by
    rw [same]
    exact Nat.lt_of_le_of_lt (Nat.min_le_left ..) tooLong
  rw [← heard.received_eq] at records
  obtain ⟨after, gives, closed, now⟩ := collect_of_tooLong size deadline limit records small big
  rw [same] at gives
  refine ⟨after, goesOn.trans gives, closed, ?_⟩
  rw [InTime, now]
  exact ⟨heard.notBefore, heard.inTime⟩

/-- When the stream ends or fails by the horizon, the session is closed. -/
theorem collect_met {given : ReadResult} (held : talk.session.link = some link)
    (early : talk.timeline.now ≤ deadline)
    (meets : Meets (talk.timeline.horizon (some deadline) limit) talk.session.received
      (link.far.pieces size) given) :
    ∃ after, after.session.phase = .closed ∧
      InTime talk (talk.timeline.horizon (some deadline) limit) after ∧
      (given = .finished → collect size deadline limit talk = (some (.ok none), after)) ∧
      ∀ fault, given = .fault fault →
        collect size deadline limit talk = (some (.error (.fault fault)), after) := by
  obtain ⟨parts, piece, later, consumes, nothing, inTime, rfl⟩ := meets
  obtain ⟨middle, heard, ends, goesOn⟩ := collect_of_consumes held early consumes
  obtain ⟨far, linked, pieces, -⟩ := heard.held
  rw [← heard.received_eq] at nothing
  have there : piece.due ≤ middle.timeline.horizon (some deadline) limit := by
    rw [ends]
    exact inTime
  have read := read_of_piece linked pieces there
  refine ⟨shut { middle with timeline := middle.timeline.advance piece.due }, rfl, ?_, ?_, ?_⟩
  · rw [InTime, now_shut]
    exact ⟨Nat.le_trans heard.notBefore (Nat.le_max_left ..),
      Nat.max_le.mpr ⟨heard.inTime, inTime⟩⟩
  · intro gives
    rw [gives] at read
    rw [goesOn, collect_of_nothing nothing, read]
  · intro fault gives
    rw [gives] at read
    rw [goesOn, collect_of_nothing nothing, read]

/-- When nothing is complete by the horizon and the stream goes on, nothing is given at the
deadline, or the call is dropped at the limit, whichever comes first. -/
theorem collect_lapsed {parts : List Part} (held : talk.session.link = some link)
    (early : talk.timeline.now ≤ deadline)
    (lapses : Lapses (talk.timeline.horizon (some deadline) limit) talk.session.received
      (link.far.pieces size) parts) :
    (max talk.timeline.now limit < deadline → (collect size deadline limit talk).1 = none) ∧
    (deadline ≤ max talk.timeline.now limit → ∃ later middle,
      Heard talk link size deadline parts later middle ∧
      collect size deadline limit talk =
        (some (.ok none), { middle with timeline := middle.timeline.advance deadline })) := by
  obtain ⟨later, consumes, nothing, late⟩ := lapses
  obtain ⟨middle, heard, -, goesOn⟩ := collect_of_consumes held early consumes
  obtain ⟨far, linked, rfl, -⟩ := heard.held
  have notBefore := heard.notBefore
  have inTime := heard.inTime
  have within : talk.timeline.horizon (some deadline) limit ≤ max talk.timeline.now limit :=
    Timeline.horizon_le
  have still : max middle.timeline.now limit = max talk.timeline.now limit := by omega
  rw [← heard.received_eq] at nothing
  rw [goesOn, collect_of_nothing nothing]
  constructor
  · intro behind
    have ahead : ∀ bound ∈ some deadline, max talk.timeline.now limit < bound :=
      forall_mem_some behind
    rw [Timeline.horizon_of_ahead ahead, ← still] at late
    rw [← still] at ahead
    rw [read_of_dropped linked late ahead]
  · intro near
    have same : talk.timeline.horizon (some deadline) limit = deadline :=
      Timeline.horizon_eq rfl near
    rw [same] at late inTime heard
    rw [← still] at near
    refine ⟨_, middle, heard, ?_⟩
    rw [read_of_lapsed linked inTime near late]

/-- Either all records are within a bound, or there is a first that is not. -/
theorem exists_first_tooLong (records : List Tlv) (bound : Nat) :
    (∀ record ∈ records, record.value.length ≤ bound) ∨
      ∃ front record behind, records = front ++ record :: behind ∧
        (∀ earlier ∈ front, earlier.value.length ≤ bound) ∧ bound < record.value.length := by
  cases found : records.find? fun record => decide (bound < record.value.length) with
  | none =>
      refine .inl fun record member => ?_
      have small := List.find?_eq_none.mp found record member
      simpa using small
  | some record =>
      obtain ⟨big, front, behind, rfl, small⟩ := List.find?_eq_some_iff_append.mp found
      exact .inr ⟨front, record, behind, rfl, by simpa using small, by simpa using big⟩

/-- What there is to collect by a moment, if values may be no longer than a bound. -/
inductive BatchCourse (last bound : Nat) (buffer : Octets) (pieces : List Arrival) : Prop where
  | completed {parts : List Part} (completes : Completes last buffer pieces parts)
      (fit : ∀ record ∈ (Tlv.parse (buffer ++ joined parts)).records,
        record.value.length ≤ bound)
  | tooLong {parts : List Part} {front behind : List Tlv} {record : Tlv}
      (completes : Completes last buffer pieces parts)
      (records : (Tlv.parse (buffer ++ joined parts)).records = front ++ record :: behind)
      (fit : ∀ earlier ∈ front, earlier.value.length ≤ bound)
      (tooLong : bound < record.value.length)
  | ended (ends : Meets last buffer pieces .finished)
  | failed {fault : Fault} (fails : Meets last buffer pieces (.fault fault))
  | lapsed {parts : List Part} (lapses : Lapses last buffer pieces parts)

theorem batchCourse (last bound : Nat) (buffer : Octets) (pieces : List Arrival) :
    BatchCourse last bound buffer pieces := by
  rcases Consumes.exists_course last buffer pieces with
    ⟨parts, completes⟩ | ends | ⟨fault, fails⟩ | ⟨parts, lapses⟩
  · rcases exists_first_tooLong (Tlv.parse (buffer ++ joined parts)).records bound with
      fit | ⟨front, record, behind, records, fit, tooLong⟩
    · exact .completed completes fit
    · exact .tooLong completes records fit tooLong
  · exact .ended ends
  · exact .failed fails
  · exact .lapsed lapses

/-- **Collecting is dropped just when** its limit comes before the deadline, and nothing comes of
it by then. -/
theorem collect_dropped_iff (held : talk.session.link = some link)
    (early : talk.timeline.now ≤ deadline) :
    (collect size deadline limit talk).1 = none ↔
      max talk.timeline.now limit < deadline ∧
        ∃ parts, Lapses (max talk.timeline.now limit) talk.session.received
          (link.far.pieces size) parts := by
  have horizon : max talk.timeline.now limit < deadline →
      talk.timeline.horizon (some deadline) limit = max talk.timeline.now limit :=
    fun ahead => Nat.min_eq_right (Nat.le_of_lt ahead)
  constructor
  · intro dropped
    cases batchCourse (talk.timeline.horizon (some deadline) limit) talk.session.limits.maxValue
      talk.session.received (link.far.pieces size) with
    | completed completes fit =>
        obtain ⟨_, _, -, gives⟩ := collect_completed held early completes fit
        rw [gives] at dropped
        cases dropped
    | tooLong completes records fit tooLong =>
        obtain ⟨_, gives, -⟩ := collect_tooLong held early completes records fit tooLong
        rw [gives] at dropped
        cases dropped
    | ended ends =>
        obtain ⟨_, -, -, gives, -⟩ := collect_met held early ends
        rw [gives rfl] at dropped
        cases dropped
    | @failed fault fails =>
        obtain ⟨_, -, -, -, gives⟩ := collect_met held early fails
        rw [gives fault rfl] at dropped
        cases dropped
    | lapsed lapses =>
        rcases Nat.lt_or_ge (max talk.timeline.now limit) deadline with ahead | near
        · rw [horizon ahead] at lapses
          exact ⟨ahead, _, lapses⟩
        · obtain ⟨_, _, -, gives⟩ := (collect_lapsed held early lapses).2 near
          rw [gives] at dropped
          cases dropped
  · rintro ⟨ahead, parts, lapses⟩
    rw [← horizon ahead] at lapses
    exact (collect_lapsed held early lapses).1 ahead

end Collect

/-! ## The outcome -/

/-- What comes of waiting for a batch up to a deadline, when everything that arrives comes
in these pieces. -/
structure BatchOutcome (talk : Conversation) (pieces : List Arrival) (deadline : Nat)
    (result : Except SessionError (Option (List Tlv))) (after : Conversation) : Prop where
  /-- A record is complete, or before that the stream ends, fails or stays silent up to the
  deadline. -/
  course : (∃ parts, Completes deadline talk.session.received pieces parts) ∨
    Meets deadline talk.session.received pieces .finished ∨
    (∃ fault, Meets deadline talk.session.received pieces (.fault fault)) ∨
    ∃ parts, Lapses deadline talk.session.received pieces parts
  /-- Records that are complete in the buffer are given at once, and nothing is read. -/
  buffered : Tlv.split? talk.session.received ≠ none →
    (∀ record ∈ (Tlv.parse talk.session.received).records,
      record.value.length ≤ talk.session.limits.maxValue) →
    (Tlv.parse talk.session.received).records ≠ [] ∧
      result = .ok (some (Tlv.parse talk.session.received).records) ∧
      after = { talk with session := { talk.session with
        received := (Tlv.parse talk.session.received).rest, unfinished := false } }
  /-- Else all records are given that are complete behind the read that completes one. -/
  completed : ∀ parts, Completes deadline talk.session.received pieces parts →
    (∀ record ∈ (Tlv.parse (talk.session.received ++ joined parts)).records,
      record.value.length ≤ talk.session.limits.maxValue) →
    (Tlv.parse (talk.session.received ++ joined parts)).records ≠ [] ∧
      result = .ok (some (Tlv.parse (talk.session.received ++ joined parts)).records) ∧
      after.session.phase = .established ∧
      after.session.received = (Tlv.parse (talk.session.received ++ joined parts)).rest
  /-- Nothing is given just when the stream ends, or time is up, before one is complete. -/
  nothing_iff : result = .ok none ↔
    Meets deadline talk.session.received pieces .finished ∨
      ∃ parts, Lapses deadline talk.session.received pieces parts
  ended : Meets deadline talk.session.received pieces .finished → after.session.phase = .closed
  lapsed : ∀ parts, Lapses deadline talk.session.received pieces parts →
    after.session.phase = .established ∧
      after.session.received = talk.session.received ++ joined parts ∧
      after.timeline.now = deadline
  failed : ∀ fault, Meets deadline talk.session.received pieces (.fault fault) →
    result = .error (.fault fault) ∧ after.session.phase = .closed
  /-- The first record that is too long is the error. -/
  tooLong : ∀ parts front record behind, Completes deadline talk.session.received pieces parts →
    (Tlv.parse (talk.session.received ++ joined parts)).records = front ++ record :: behind →
    (∀ earlier ∈ front, earlier.value.length ≤ talk.session.limits.maxValue) →
    talk.session.limits.maxValue < record.value.length →
    result = .error (.framing (.record (talk.session.framing.refusal record.value.length))) ∧
      after.session.phase = .closed
  notBefore : talk.timeline.now ≤ after.timeline.now
  inTime : after.timeline.now ≤ deadline

/-- The mark of a batch that is begun is no part of its outcome. -/
theorem BatchOutcome.of_begun {talk after : Conversation} {pieces : List Arrival} {deadline : Nat}
    {result : Except SessionError (Option (List Tlv))}
    (outcome : BatchOutcome (mark true talk) pieces deadline result after) :
    BatchOutcome talk pieces deadline result after where
  course := outcome.course
  buffered := outcome.buffered
  completed := outcome.completed
  nothing_iff := outcome.nothing_iff
  ended := outcome.ended
  lapsed := outcome.lapsed
  failed := outcome.failed
  tooLong := outcome.tooLong
  notBefore := outcome.notBefore
  inTime := outcome.inTime

section Outcome

variable {size deadline timeout limit : Nat} {talk last : Conversation} {link : Link}
  {result : Except SessionError (Option (List Tlv))}

section Collected

variable (held : talk.session.link = some link) (early : talk.timeline.now ≤ deadline)
  (collected : collect size deadline limit talk = (some result, last))

include held early collected

/-- Where collecting was not dropped, its horizon is the deadline, or it did not come to that. -/
theorem decided_of_collect :
    (∀ front, ¬ Lapses (talk.timeline.horizon (some deadline) limit) talk.session.received
      (link.far.pieces size) front) ∨
      talk.timeline.horizon (some deadline) limit ∈ some deadline := by
  rcases Nat.lt_or_ge (max talk.timeline.now limit) deadline with ahead | near
  · refine .inl fun front lapses => ?_
    have dropped := (collect_lapsed held early lapses).1 ahead
    rw [collected] at dropped
    cases dropped
  · exact .inr (congrArg some (Timeline.horizon_eq rfl near).symm)

theorem collect_result_of_completed {parts : List Part}
    (established : talk.session.phase = .established)
    (completes : Completes deadline talk.session.received (link.far.pieces size) parts)
    (fit : ∀ record ∈ (Tlv.parse (talk.session.received ++ joined parts)).records,
      record.value.length ≤ talk.session.limits.maxValue) :
    (result = .ok (some (Tlv.parse (talk.session.received ++ joined parts)).records) ∧
      last.session.phase = .established ∧
      last.session.received = (Tlv.parse (talk.session.received ++ joined parts)).rest) ∧
    InTime talk deadline last := by
  have within := completes.restrict (decided_of_collect held early collected)
    (forall_mem_some (Nat.le_refl deadline))
  obtain ⟨_, middle, heard, gives⟩ := collect_completed held early within fit
  cases gives.symm.trans collected
  exact ⟨⟨rfl, heard.phase_eq.trans established, rfl⟩, heard.notBefore,
    Nat.le_trans heard.inTime (Timeline.horizon_le_deadline rfl)⟩

theorem collect_result_of_tooLong {parts : List Part} {record : Tlv} {front behind : List Tlv}
    (completes : Completes deadline talk.session.received (link.far.pieces size) parts)
    (records : (Tlv.parse (talk.session.received ++ joined parts)).records =
      front ++ record :: behind)
    (fit : ∀ earlier ∈ front, earlier.value.length ≤ talk.session.limits.maxValue)
    (tooLong : talk.session.limits.maxValue < record.value.length) :
    (result = .error (.framing (.record (talk.session.framing.refusal record.value.length))) ∧
      last.session.phase = .closed) ∧
    InTime talk deadline last := by
  have within := completes.restrict (decided_of_collect held early collected)
    (forall_mem_some (Nat.le_refl deadline))
  obtain ⟨_, gives, closed, soon⟩ := collect_tooLong held early within records fit tooLong
  cases gives.symm.trans collected
  exact ⟨⟨rfl, closed⟩, soon.1, Nat.le_trans soon.2 (Timeline.horizon_le_deadline rfl)⟩

theorem collect_result_of_ended
    (ends : Meets deadline talk.session.received (link.far.pieces size) .finished) :
    (result = .ok none ∧ last.session.phase = .closed) ∧ InTime talk deadline last := by
  have within := ends.restrict (decided_of_collect held early collected)
    (forall_mem_some (Nat.le_refl deadline))
  obtain ⟨_, closed, soon, gives, -⟩ := collect_met held early within
  cases (gives rfl).symm.trans collected
  exact ⟨⟨rfl, closed⟩, soon.1, Nat.le_trans soon.2 (Timeline.horizon_le_deadline rfl)⟩

theorem collect_result_of_failed {fault : Fault}
    (fails : Meets deadline talk.session.received (link.far.pieces size) (.fault fault)) :
    (result = .error (.fault fault) ∧ last.session.phase = .closed) ∧
      InTime talk deadline last := by
  have within := fails.restrict (decided_of_collect held early collected)
    (forall_mem_some (Nat.le_refl deadline))
  obtain ⟨_, closed, soon, -, gives⟩ := collect_met held early within
  cases (gives fault rfl).symm.trans collected
  exact ⟨⟨rfl, closed⟩, soon.1, Nat.le_trans soon.2 (Timeline.horizon_le_deadline rfl)⟩

theorem collect_result_of_lapsed {parts : List Part}
    (established : talk.session.phase = .established)
    (lapses : Lapses deadline talk.session.received (link.far.pieces size) parts) :
    result = .ok none ∧ last.session.phase = .established ∧
      last.session.received = talk.session.received ++ joined parts ∧
      last.timeline.now = deadline := by
  have same := lapses.restrict (decided_of_collect held early collected) rfl
    (Timeline.horizon_le_deadline rfl)
  have near : deadline ≤ max talk.timeline.now limit := same ▸ Timeline.horizon_le
  rw [← same] at lapses
  obtain ⟨_, middle, heard, gives⟩ := (collect_lapsed held early lapses).2 near
  cases gives.symm.trans collected
  exact ⟨rfl, heard.phase_eq.trans established, heard.received_eq, Nat.max_eq_right heard.inTime⟩

/-- What collecting that is not dropped comes to. -/
theorem collect_outcome (established : talk.session.phase = .established) :
    BatchOutcome talk (link.far.pieces size) deadline result (mark false last) := by
  have course := batchCourse deadline talk.session.limits.maxValue talk.session.received
    (link.far.pieces size)
  have soon : InTime talk deadline last := by
    cases course with
    | completed completes fit =>
        exact (collect_result_of_completed held early collected established completes fit).2
    | tooLong completes records fit tooLong =>
        exact (collect_result_of_tooLong held early collected completes records fit tooLong).2
    | ended ends => exact (collect_result_of_ended held early collected ends).2
    | failed fails => exact (collect_result_of_failed held early collected fails).2
    | lapsed lapses =>
        obtain ⟨-, -, -, now⟩ := collect_result_of_lapsed held early collected established lapses
        exact ⟨now ▸ early, Nat.le_of_eq now⟩
  constructor
  case course => exact Consumes.exists_course ..
  case buffered =>
    intro complete fit
    have small : ∀ record ∈ (Tlv.parse talk.session.received).records,
        record.value.length ≤ talk.session.framing.limit :=
      fun record member => Nat.le_min.mpr ⟨fit record member, Tlv.length_value_le_of_mem member⟩
    cases (collect_of_complete size deadline limit small complete).symm.trans collected
    exact ⟨Tlv.records_parse_ne_nil complete, rfl, rfl⟩
  case completed =>
    intro parts completes fit
    have ⟨_, _, complete⟩ := completes
    exact ⟨Tlv.records_parse_ne_nil complete,
      (collect_result_of_completed held early collected established completes fit).1⟩
  case nothing_iff =>
    constructor
    · intro nothing
      cases course with
      | completed completes fit =>
          cases nothing.symm.trans
            (collect_result_of_completed held early collected established completes fit).1.1
      | tooLong completes records fit tooLong =>
          cases nothing.symm.trans
            (collect_result_of_tooLong held early collected completes records fit tooLong).1.1
      | ended ends => exact .inl ends
      | failed fails =>
          cases nothing.symm.trans (collect_result_of_failed held early collected fails).1.1
      | lapsed lapses => exact .inr ⟨_, lapses⟩
    · rintro (ends | ⟨parts, lapses⟩)
      · exact (collect_result_of_ended held early collected ends).1.1
      · exact (collect_result_of_lapsed held early collected established lapses).1
  case ended => exact fun ends => (collect_result_of_ended held early collected ends).1.2
  case lapsed =>
    exact fun parts lapses =>
      (collect_result_of_lapsed held early collected established lapses).2
  case failed => exact fun fault fails => (collect_result_of_failed held early collected fails).1
  case tooLong =>
    exact fun parts front record behind completes records fit tooLong =>
      (collect_result_of_tooLong held early collected completes records fit tooLong).1
  case notBefore => exact soon.1
  case inTime => exact soon.2

end Collected

/-- **What waiting for a batch comes to**, for everything that can arrive. The wait is up to
one deadline, however many pieces there are, and what is there at the deadline counts. It is
dropped just when its limit comes before the deadline and nothing comes of it by then, so a wait
that may last up to its deadline returns. -/
theorem receive_outcome (established : talk.session.phase = .established)
    (held : talk.session.link = some link) :
    (∀ result after, receive size timeout limit talk = (some result, after) →
      BatchOutcome talk (link.far.pieces size) (talk.timeline.now + timeout) result after) ∧
    ((receive size timeout limit talk).1 = none ↔
      max talk.timeline.now limit < talk.timeline.now + timeout ∧
        ∃ parts, Lapses (max talk.timeline.now limit) talk.session.received
          (link.far.pieces size) parts) := by
  have begun : (mark true talk).session.phase = .established := established
  have linked : (mark true talk).session.link = some link := held
  have early : (mark true talk).timeline.now ≤ talk.timeline.now + timeout := Nat.le_add_right ..
  have dropped : (collect size (talk.timeline.now + timeout) limit (mark true talk)).1 = none ↔ _ :=
    collect_dropped_iff linked early
  rw [receive_eq_collect size timeout limit established]
  constructor
  · intro result after returned
    obtain ⟨last, collected, rfl⟩ := exists_of_finished returned
    have outcome : BatchOutcome (mark true talk) _ _ _ _ :=
      collect_outcome linked early collected begun
    exact outcome.of_begun
  · refine Iff.trans ?_ dropped
    rcases collect size (talk.timeline.now + timeout) limit (mark true talk) with ⟨_ | _, last⟩
    · exact Iff.rfl
    · exact Iff.rfl

end Outcome

/-- Two records that are complete just at the deadline are given, and the octet behind them
stays in the buffer. With a millisecond less time is up, and so it is for a caller who waits a
millisecond less. -/
theorem receive_outcome_fragmented :
    ∃ link, fragmented.session.link = some link ∧
      (∃ after, receive 4096 9 9 fragmented =
          (some (.ok (some [⟨0x82, [65, 66]⟩, ⟨0x01, []⟩])), after) ∧
        BatchOutcome fragmented (link.far.pieces 4096) 9
          (.ok (some [⟨0x82, [65, 66]⟩, ⟨0x01, []⟩])) after ∧
        after.session.received = [0x82]) ∧
      (∃ after, receive 4096 8 8 fragmented = (some (.ok none), after) ∧
        BatchOutcome fragmented (link.far.pieces 4096) 8 (.ok none) after ∧
        after.timeline.now = 8) ∧
      (receive 4096 9 8 fragmented).1 = none ∧
      ∃ parts, Lapses 8 fragmented.session.received (link.far.pieces 4096) parts := by
  have established : fragmented.session.phase = .established := rfl
  obtain ⟨link, held⟩ : ∃ link, fragmented.session.link = some link := ⟨_, rfl⟩
  refine ⟨link, held, ?_, ?_, ?_⟩
  · have given : (receive 4096 9 9 fragmented).1 =
        some (.ok (some [⟨0x82, [65, 66]⟩, ⟨0x01, []⟩])) := by decide +kernel
    have left : (receive 4096 9 9 fragmented).2.session.received = [0x82] := by decide +kernel
    have returned : receive 4096 9 9 fragmented = (some _, _) := Prod.ext given rfl
    exact ⟨_, returned, (receive_outcome established held).1 _ _ returned, left⟩
  · have given : (receive 4096 8 8 fragmented).1 = some (.ok none) := by decide +kernel
    have moment : (receive 4096 8 8 fragmented).2.timeline.now = 8 := by decide +kernel
    have returned : receive 4096 8 8 fragmented = (some _, _) := Prod.ext given rfl
    exact ⟨_, returned, (receive_outcome established held).1 _ _ returned, moment⟩
  · have dropped : (receive 4096 9 8 fragmented).1 = none := by decide +kernel
    exact ⟨dropped, ((receive_outcome established held).2.mp dropped).2⟩

end Conversation

end Commissioner
