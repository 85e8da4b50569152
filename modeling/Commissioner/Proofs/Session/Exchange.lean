import Commissioner.Proofs.Session.Reading

/-!
# A request and the batch behind its answer

Waiting for an answer and collecting a batch both go on behind reads as they would
have begun there (`Reads.awaitAnswer_eq`, `Reads.collect_eq`), so both come down to
reads that end with the first complete record. A request on an empty buffer is answered
by the first record of what the far end sends (`request_fetched`), and a batch is every
record that is complete then (`receive_fetched`).

A request and a batch in a row therefore take the records that are complete as soon as
a second one is (`exists_answer_and_batch`).
-/

set_option autoImplicit false

namespace Commissioner.Conversation

/-! ## Waiting for an answer -/

/-- Waiting for an answer with no complete record in the buffer is a read, and what comes of
it. -/
theorem awaitAnswer_of_nothing {deadline : Option Nat} {limit : Nat} {talk : Conversation}
    (nothing : Tlv.split? talk.session.received = none) :
    awaitAnswer deadline limit talk =
      match read talk.session.limits.readSize deadline limit talk with
      | (none, after) => (none, after)
      | (some (.error error), after) => (some (.error error), after)
      | (some (.ok .finished), after) => (some (.ok none), after)
      | (some (.ok .more), after) => awaitAnswer deadline limit after
      | (some (.ok .expired), after) =>
          match close limit after with
          | (some (), closed) => (some (.ok none), closed)
          | (none, parted) => (none, parted) := by
  rw [awaitAnswer]
  split
  next found => cases (Framing.next_eq_record.mp found).1.symm.trans nothing
  next found =>
    obtain ⟨_, taken, -⟩ := Framing.next_eq_tooLarge.mp found
    cases taken.symm.trans nothing
  next =>
    rcases read talk.session.limits.readSize deadline limit talk with ⟨_ | _ | _ | _ | _, after⟩
    all_goals rfl

/-- Waiting for an answer goes on behind a read that brought octets. -/
theorem awaitAnswer_of_more {deadline : Option Nat} {limit : Nat} {talk middle : Conversation}
    (nothing : Tlv.split? talk.session.received = none)
    (brought : read talk.session.limits.readSize deadline limit talk =
      (some (.ok .more), middle)) :
    awaitAnswer deadline limit talk = awaitAnswer deadline limit middle := by
  rw [awaitAnswer_of_nothing nothing, brought]

/-- When time is up, the link is shut down, and no answer is given. -/
theorem awaitAnswer_of_expired {deadline : Option Nat} {limit : Nat}
    {talk middle after : Conversation} {value : Option Unit}
    (nothing : Tlv.split? talk.session.received = none)
    (expired : read talk.session.limits.readSize deadline limit talk =
      (some (.ok .expired), middle)) (closed : close limit middle = (value, after)) :
    awaitAnswer deadline limit talk = (value.map fun _ => .ok none, after) := by
  rw [awaitAnswer_of_nothing nothing, expired]
  simp only [closed]
  cases value with
  | none => rfl
  | some => rfl

/-- Waiting for an answer goes on behind reads. -/
theorem Reads.awaitAnswer_eq {size limit : Nat} {deadline : Option Nat}
    {talk after : Conversation} (reads : Reads size deadline limit talk after)
    (chosen : talk.session.limits.readSize = size) :
    awaitAnswer deadline limit talk = awaitAnswer deadline limit after := by
  induction reads with
  | refl => rfl
  | more nothing brought bounds _ ih =>
      subst chosen
      rw [awaitAnswer_of_more nothing brought]
      exact ih (by rw [bounds])

/-- A complete record that fits is the answer. -/
theorem awaitAnswer_of_split? {deadline : Option Nat} {limit : Nat} {talk : Conversation}
    {record : Tlv} {rest : Octets}
    (taken : Tlv.split? talk.session.received = some (record, rest))
    (fits : record.value.length ≤ talk.session.framing.limit) :
    awaitAnswer deadline limit talk =
      (some (.ok (some record)), { talk with session := { talk.session with received := rest } }) := by
  have found : talk.session.framing.next talk.session.received = .record record rest :=
    Framing.next_eq_record.mpr ⟨taken, fits⟩
  rw [awaitAnswer]
  split
  next same =>
    rw [found] at same
    cases same
    rfl
  next same => cases found.symm.trans same
  next same => cases found.symm.trans same

/-! ## Waiting for a batch -/

/-- Takes every complete record, and waits for one until a deadline when there is none. -/
def collect (size deadline limit : Nat) (talk : Conversation) :
    Option (Except SessionError (Option (List Tlv))) × Conversation :=
  match drain talk with
  | (.error error, talk) => (some (.error error), talk)
  | (.ok (record :: records), talk) => (some (.ok (some (record :: records))), talk)
  | (.ok [], _) => awaitRecords size deadline limit talk

/-- A batch on an established session is collected up to its timeout. -/
theorem receive_eq_collect {talk : Conversation} (size timeout limit : Nat)
    (established : talk.session.phase = .established) :
    receive size timeout limit talk =
      finished (collect size (talk.timeline.now + timeout) limit (mark true talk)) := by
  have expected : (mark true talk).session.expect .established = .ok () := if_pos established
  have same : (mark true talk).timeline.now = talk.timeline.now := rfl
  refine (marked_apply _ limit talk).trans (congrArg finished ?_)
  simp only [expected, same]
  unfold collect
  rcases drain (mark true talk) with ⟨_ | _ | ⟨_, _⟩, _⟩
  case error => rfl
  case ok.cons => rfl
  case ok.nil => rfl

/-- Nothing is drained while no record is complete. -/
theorem drain_of_nothing {talk : Conversation}
    (nothing : Tlv.split? talk.session.received = none) : drain talk = (.ok [], talk) := by
  simp only [drain, Framing.drain_of_incomplete (Framing.next_eq_incomplete.mpr nothing)]

theorem nothing_of_drain {talk after : Conversation} (drained : drain talk = (.ok [], after)) :
    Tlv.split? talk.session.received = none := by
  by_contra complete
  obtain ⟨⟨record, rest⟩, taken⟩ := Option.ne_none_iff_exists'.mp complete
  unfold drain at drained
  rw [Framing.drain] at drained
  split at drained
  next found => cases (Framing.next_eq_incomplete.mp found).symm.trans taken
  next => cases drained
  next =>
    simp only at drained
    split at drained
    next => cases drained
    next => cases drained

/-- Collecting with no complete record in the buffer is a read, and what comes of it. -/
theorem collect_of_nothing {size deadline limit : Nat} {talk : Conversation}
    (nothing : Tlv.split? talk.session.received = none) :
    collect size deadline limit talk =
      match read size (some deadline) limit talk with
      | (none, after) => (none, after)
      | (some (.error error), after) => (some (.error error), after)
      | (some (.ok .more), after) => collect size deadline limit after
      | (some (.ok _), after) => (some (.ok none), after) := by
  rw [collect, drain_of_nothing nothing]
  simp only
  rw [awaitRecords]
  rcases read size (some deadline) limit talk with ⟨_ | _ | _ | _ | _, after⟩
  all_goals rfl

/-- Collecting goes on behind a read that brought octets. -/
theorem collect_of_more {size deadline limit : Nat} {talk middle : Conversation}
    (nothing : Tlv.split? talk.session.received = none)
    (brought : read size (some deadline) limit talk = (some (.ok .more), middle)) :
    collect size deadline limit talk = collect size deadline limit middle := by
  rw [collect_of_nothing nothing, brought]

/-- Collecting goes on behind reads. -/
theorem Reads.collect_eq {size deadline limit : Nat} {talk after : Conversation}
    (reads : Reads size (some deadline) limit talk after) :
    collect size deadline limit talk = collect size deadline limit after := by
  induction reads with
  | refl => rfl
  | more nothing brought _ _ ih =>
      rw [collect_of_more nothing brought]
      exact ih

/-- Every complete record is collected at once when all fit. -/
theorem collect_of_complete (size deadline limit : Nat) {talk : Conversation}
    (fit : ∀ record ∈ (Tlv.parse talk.session.received).records,
      record.value.length ≤ talk.session.framing.limit)
    (complete : Tlv.split? talk.session.received ≠ none) :
    collect size deadline limit talk =
      (some (.ok (some (Tlv.parse talk.session.received).records)),
        { talk with
          session := { talk.session with received := (Tlv.parse talk.session.received).rest } }) := by
  have drained := Framing.drain_eq_parse fit
  obtain ⟨⟨record, rest⟩, taken⟩ := Option.ne_none_iff_exists'.mp complete
  simp only [collect, drain, drained]
  rw [Tlv.parse_of_some taken]

/-! ## A request and a batch -/

/-- How a request was answered out of parts: the events while it was written, those
while its answer was read, and the parts left. -/
structure Exchanged (talk : Conversation) (id : Nat) (parts : List Part) (later : List Arrival)
    (writing reading : List Event) (left : List Part) (after : Conversation) : Prop where
  log : after.timeline.log = talk.timeline.log ++ (writing ++ reading)
  written : ∃ pieces : List Octets, writing = transmission id pieces
  delivered : ∀ event ∈ reading, ∃ octets, event = .delivered id octets
  octets : deliveries reading ++ joined left = joined parts
  feeding : Feeding after id left later
  soon : AsSoonAs left parts
  phase : after.session.phase = .established
  limits : after.session.limits = talk.session.limits

/-- A link that wrote a record still brings the same parts. -/
theorem Wrote.feeding {talk middle : Conversation} {record : Tlv} {link : Link}
    {pieces : List Octets} {parts : List Part} {later : List Arrival} {id : Nat}
    (wrote : Wrote talk record link pieces middle) (feeding : Feeding talk id parts later) :
    link.id = id ∧ Feeding middle id parts later := by
  obtain ⟨_, held, rfl, arrivals, full⟩ := feeding
  cases wrote.held.symm.trans held
  obtain ⟨far, stillHeld, same⟩ := wrote.stillHeld
  exact ⟨rfl, _, stillHeld, rfl, same.trans arrivals, full⟩

/-- **A request is answered by the first record of the parts**, when the buffer is
empty and the parts with that record are there before the deadline. -/
theorem request_fetched {record answer : Tlv} {limit id : Nat} {talk middle : Conversation}
    {parts : List Part} {later : List Arrival} {rest : Octets}
    (roomy : talk.session.framing.limit = maxValueLength)
    (empty : talk.session.received = [])
    (sent : send record limit (mark true talk) = (some (.ok ()), middle))
    (feeding : Feeding talk id parts later) (inTime : ∀ part ∈ parts, part.due ≤ limit)
    (answered : ∀ bound, talk.session.limits.responseTimeout = some bound →
      ∀ part ∈ parts, part.due ≤ middle.timeline.now + bound)
    (complete : Tlv.split? (joined parts) = some (answer, rest)) :
    ∃ (writing reading : List Event) (left : List Part) (after : Conversation),
      request record limit talk = (some (.ok (some answer)), after) ∧
      Exchanged talk id parts later writing reading left after ∧
      JustComplete id [] reading ∧
      Tlv.split? (deliveries reading) = some (answer, after.session.received) := by
  obtain ⟨link, pieces, wrote⟩ := send_ok sent
  obtain ⟨rfl, fed⟩ := wrote.feeding feeding
  have received : middle.session.received = [] := wrote.received.trans empty
  have bounds : middle.session.limits = talk.session.limits := wrote.limits
  have soonEnough : ∀ part ∈ parts, Timeline.InTime
      (middle.session.limits.responseTimeout.map (middle.timeline.now + ·)) limit part.due := by
    intro part member
    refine ⟨inTime part member, fun moment same => ?_⟩
    rw [bounds, Option.map_eq_some_iff] at same
    obtain ⟨bound, chosen, rfl⟩ := same
    exact answered bound chosen part member
  have whole : Tlv.split? (middle.session.received ++ joined parts) ≠ none := by
    rw [received, List.nil_append, complete]
    exact Option.some_ne_none _
  obtain ⟨reading, left, readout, reads, fetched, found, ending⟩ :=
    exists_reads middle.session.limits.readSize _ fed soonEnough whole
  have buffer : readout.session.received = deliveries reading := by
    rw [fetched.received_eq, received, List.nil_append]
  obtain ⟨⟨first, behind⟩, taken⟩ := Option.ne_none_iff_exists'.mp found
  rw [← fetched.octets, ← buffer] at complete
  obtain ⟨rfl, -⟩ := Tlv.split?_unique taken complete
  have fits : answer.value.length ≤ readout.session.framing.limit := by
    rw [Session.framing_congr (fetched.limits_eq.trans bounds), roomy]
    exact Tlv.length_value_le taken
  refine ⟨transmission link.id pieces, reading, left,
    mark false { readout with session := { readout.session with received := behind } },
    ?_, ?_, ?_, ?_⟩
  · rw [request_of_sent sent, reads.awaitAnswer_eq rfl, awaitAnswer_of_split? taken fits]
    rfl
  · constructor
    case log =>
      refine fetched.log.trans ?_
      rw [wrote.log, List.append_assoc]
      rfl
    case written => exact ⟨pieces, rfl⟩
    case delivered => exact fetched.delivered
    case octets => exact fetched.octets
    case feeding => exact fetched.feeding
    case soon => exact fetched.soon
    case phase => exact fetched.phase_eq.trans wrote.phase
    case limits => exact fetched.limits_eq.trans bounds
  · rw [received] at ending
    rcases ending with none | justComplete
    · rw [buffer, none] at taken
      cases taken
    · exact justComplete
  · rw [← buffer]
    exact taken

/-- **A batch is every record that is complete** in the buffer, or when there is none
as soon as the parts have completed one. -/
theorem receive_fetched {limit id : Nat} {talk : Conversation} {parts : List Part}
    {later : List Arrival} (size timeout : Nat)
    (established : talk.session.phase = .established)
    (roomy : talk.session.framing.limit = maxValueLength)
    (feeding : Feeding talk id parts later)
    (inTime : ∀ part ∈ parts,
      Timeline.InTime (some (talk.timeline.now + timeout)) limit part.due)
    (complete : Tlv.split? (talk.session.received ++ joined parts) ≠ none) :
    ∃ (reading : List Event) (left : List Part) (after : Conversation),
      receive size timeout limit talk =
        (some (.ok (some (Tlv.parse (talk.session.received ++ deliveries reading)).records)),
          after) ∧
      after.timeline.log = talk.timeline.log ++ reading ∧
      (∀ event ∈ reading, ∃ octets, event = .delivered id octets) ∧
      deliveries reading ++ joined left = joined parts ∧
      Tlv.split? (talk.session.received ++ deliveries reading) ≠ none ∧
      (reading = [] ∨ JustComplete id talk.session.received reading) := by
  have begun : Feeding (mark true talk) id parts later := feeding
  obtain ⟨reading, left, readout, reads, fetched, found, ending⟩ :=
    exists_reads size _ begun inTime complete
  have buffer : readout.session.received = talk.session.received ++ deliveries reading :=
    fetched.received_eq
  have wide : readout.session.framing.limit = maxValueLength := by
    rw [Session.framing_congr fetched.limits_eq]
    exact roomy
  have fit : ∀ record ∈ (Tlv.parse readout.session.received).records,
      record.value.length ≤ readout.session.framing.limit := by
    intro record member
    rw [wide]
    exact Tlv.length_value_le_of_mem member
  have collected := collect_of_complete size (talk.timeline.now + timeout) limit fit found
  rw [buffer] at found collected
  let rest := (Tlv.parse (talk.session.received ++ deliveries reading)).rest
  refine ⟨reading, left,
    mark false { readout with session := { readout.session with received := rest } }, ?_,
    fetched.log, fetched.delivered, fetched.octets, found, ending⟩
  rw [receive_eq_collect size timeout limit established, reads.collect_eq, collected]
  rfl

/-- When the batch behind an answer was read, the last read was the first to complete a
second record. -/
theorem exists_last_read {id : Nat} {answer : Tlv} {left : Octets} {asked reading : List Event}
    (heard : Tlv.split? (deliveries asked) = some (answer, left))
    (atFirst : JustComplete id [] asked) (behind : reading = [] ∨ JustComplete id left reading) :
    ∃ before piece, asked ++ reading = before ++ [.delivered id piece] ∧
      (Tlv.parse (deliveries before)).records.length ≤ 1 := by
  rcases behind with rfl | ⟨before, piece, rfl, nothing⟩
  · obtain ⟨before, piece, rfl, nothing⟩ := atFirst
    refine ⟨before, piece, List.append_nil _, ?_⟩
    rw [List.nil_append] at nothing
    rw [Tlv.parse_of_none nothing]
    exact Nat.zero_le 1
  · refine ⟨asked ++ before, piece, (List.append_assoc ..).symm, ?_⟩
    rw [deliveries_append, Tlv.parse_append_of_split? heard, Tlv.parse_of_none nothing]
    exact Nat.le_refl 1

/-- **The answer to a request and the batch behind it** are the records that are
complete as soon as a second one is: before the last read no more than the answer was. -/
theorem exists_answer_and_batch {record answer : Tlv} {records : List Tlv} {limit id : Nat}
    {talk written : Conversation} {early late : List Part} {later : List Arrival}
    (size timeout : Nat)
    (roomy : talk.session.framing.limit = maxValueLength)
    (empty : talk.session.received = [])
    (sent : send record limit (mark true talk) = (some (.ok ()), written))
    (feeding : Feeding talk id (early ++ late) later)
    (inTime : ∀ part ∈ early ++ late, part.due ≤ limit)
    (answeredInTime : ∀ bound, talk.session.limits.responseTimeout = some bound →
      ∀ part ∈ early, part.due ≤ written.timeline.now + bound)
    (streamed : ∀ part ∈ early ++ late,
      part.due ≤ (request record limit talk).2.timeline.now + timeout)
    (first : Tlv.split? (joined early) ≠ none)
    (stream : (Tlv.parse (joined (early ++ late))).records = answer :: records)
    (further : records ≠ []) :
    ∃ (writing before : List Event) (piece : Octets) (middle after : Conversation)
      (batch : List Tlv),
      request record limit talk = (some (.ok (some answer)), middle) ∧
      middle.session.phase = .established ∧
      receive size timeout limit middle = (some (.ok (some batch)), after) ∧
      after.timeline.log =
        talk.timeline.log ++ writing ++ (before ++ [.delivered id piece]) ∧
      (∀ line, .printed line ∉ writing ++ before) ∧
      deliveries before ++ piece <+: joined (early ++ late) ∧
      (Tlv.parse (deliveries before)).records.length ≤ 1 ∧
      (Tlv.parse (deliveries before ++ piece)).records = answer :: batch ∧ batch ≠ [] := by
  obtain ⟨rest, front, others⟩ := Tlv.exists_split?_of_records stream
  obtain ⟨⟨found, behind⟩, taken⟩ := Option.ne_none_iff_exists'.mp first
  have whole : Tlv.split? (joined early ++ joined late) = some (answer, rest) := by
    rw [← joined_append]
    exact front
  obtain ⟨rfl, -⟩ := Tlv.split?_unique taken whole
  obtain ⟨writing, asked, left, middle, answered, exchanged, atFirst, heard⟩ :=
    request_fetched roomy empty sent feeding.front
      (fun part member => inTime part (List.mem_append_left late member)) answeredInTime taken
  rw [answered] at streamed
  -- What the request left of the early parts comes before the late ones.
  have remaining : deliveries asked ++ joined (left ++ late) = joined (early ++ late) := by
    rw [joined_append, ← List.append_assoc, exchanged.octets, joined_append]
  have timely : ∀ part ∈ early ++ late,
      Timeline.InTime (some (middle.timeline.now + timeout)) limit part.due := by
    intro part member
    refine ⟨inTime part member, fun moment same => ?_⟩
    cases same
    exact streamed part member
  obtain ⟨_, _, _, _, full⟩ := feeding
  have fed : Feeding middle id (left ++ late) later :=
    exchanged.feeding.append fun part member => full part (List.mem_append_right early member)
  have complete : Tlv.split? (middle.session.received ++ joined (left ++ late)) ≠ none := by
    rw [← remaining] at front
    obtain ⟨-, unread⟩ := Tlv.split?_unique heard front
    intro nothing
    rw [unread, Tlv.parse_of_none nothing] at others
    exact further others.symm
  obtain ⟨reading, unread, after, received, log, delivered, octets, full, ending⟩ :=
    receive_fetched size timeout exchanged.phase
      ((congrArg Framing.limit (Session.framing_congr exchanged.limits)).trans roomy) fed
      ((exchanged.soon.append late).forall_due timely) complete
  obtain ⟨before, piece, same, few⟩ := exists_last_read heard atFirst ending
  have read : deliveries before ++ piece = deliveries asked ++ deliveries reading := by
    rw [← deliveries_append, same, deliveries_append, deliveries_delivered]
  refine ⟨writing, before, piece, middle, after,
    (Tlv.parse (middle.session.received ++ deliveries reading)).records, answered,
    exchanged.phase, received, ?_, ?_, ?_, few, ?_, ?_⟩
  · rw [log, exchanged.log, ← same]
    simp only [List.append_assoc]
  · intro line printed
    rcases List.mem_append.mp printed with whileWriting | whileReading
    · obtain ⟨pieces, rfl⟩ := exchanged.written
      simp [transmission] at whileWriting
    · have among : .printed line ∈ asked ++ reading := by
        rw [same]
        exact List.mem_append_left _ whileReading
      rcases List.mem_append.mp among with earlier | later
      · obtain ⟨_, impossible⟩ := exchanged.delivered _ earlier
        cases impossible
      · obtain ⟨_, impossible⟩ := delivered _ later
        cases impossible
  · refine ⟨joined unread, ?_⟩
    rw [read, List.append_assoc, octets, remaining]
  · rw [read, Tlv.parse_append_of_split? heard]
  · obtain ⟨⟨record, rest⟩, taken⟩ := Option.ne_none_iff_exists'.mp full
    rw [Tlv.parse_of_some taken]
    exact List.cons_ne_nil _ _

end Commissioner.Conversation
