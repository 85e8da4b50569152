import Commissioner.Proofs.Session.Answering
import Commissioner.Proofs.Session.Buffer

/-!
# How often a session reads

A session reads while no record is complete at the front of its buffer, and each read that brings
something brings at least one octet. A record is complete at the latest when the octets are as
many as the longest record has, whatever its header declares and in whichever form. So the octets
that are missing to that number (`Tlv.missing`) bound the reads that bring octets, for the batches
as for the answers (`Conversation.Frugal`). When a record is complete already, the link is not read
from at all: what a call does is the same whatever arrives (`Conversation.Deaf`).

A batch returns by its timeout. A request without a deadline returns when its reads are answered
(`Conversation.Attended`), because they cannot all be answered without an end of the wait
(`Conversation.not_lapses`). The whole is `Conversation.reading_progresses`.
-/

set_option autoImplicit false

namespace Commissioner

/-! ## What is missing to a record -/

/-- The octets that can be missing to a complete record at the front of a buffer, at most. -/
def Tlv.missing (buffer : Octets) : Nat :=
  if split? buffer = none then maxValueLength + 4 - buffer.length else 0

namespace Tlv

/-- **Before a record is complete there are fewer octets than the longest record has.** -/
theorem length_lt_of_nothing {buffer : Octets} (nothing : split? buffer = none) :
    buffer.length < maxValueLength + 4 := by
  have ahead : Ahead 0 buffer := ⟨buffer, [], (List.append_nil _).symm, nothing, Nat.le_refl 0⟩
  have bound := ahead.length_le
  omega

theorem missing_of_nothing {buffer : Octets} (nothing : split? buffer = none) :
    missing buffer + buffer.length = maxValueLength + 4 := by
  have few := length_lt_of_nothing nothing
  rw [missing, if_pos nothing]
  omega

theorem missing_of_complete {buffer : Octets} (complete : split? buffer ≠ none) :
    missing buffer = 0 :=
  if_neg complete

/-- Octets behind a buffer without a complete record leave less missing. -/
theorem missing_append {buffer octets : Octets} (nothing : split? buffer = none)
    (full : octets ≠ []) : missing (buffer ++ octets) + 1 ≤ missing buffer := by
  have here := missing_of_nothing nothing
  have few := length_lt_of_nothing nothing
  by_cases still : split? (buffer ++ octets) = none
  case pos =>
    have there := missing_of_nothing still
    have more := List.length_pos_iff.mpr full
    rw [List.length_append] at there
    omega
  case neg =>
    rw [missing_of_complete still]
    omega

end Tlv

/-! ## Reads that bring octets -/

/-- Octets are delivered in the event. -/
def Event.delivers : Event → Bool
  | .delivered _ _ => true
  | _ => false

/-- How many reads have brought octets so far. -/
def Timeline.reads (timeline : Timeline) : Nat :=
  timeline.log.countP Event.delivers

namespace Timeline

theorem Adds.reads_eq {kind : Event → Bool} {before after : Timeline}
    (adds : before.Adds kind after)
    (never : ∀ event, kind event = true → event.delivers = false) : after.reads = before.reads := by
  obtain ⟨events, log, all⟩ := adds
  have none : events.countP Event.delivers = 0 := by
    refine List.countP_eq_zero.mpr fun event member delivered => ?_
    cases delivered.symm.trans (never event (all event member))
  rw [reads, log, List.countP_append, none, Nat.add_zero]
  rfl

theorem Quiet.reads_eq {before after : Timeline} (quiet : before.Quiet after) :
    after.reads = before.reads := by
  refine Adds.reads_eq quiet fun event still => ?_
  cases event with
  | delivered => cases still
  | _ => rfl

end Timeline

namespace Conversation

variable {size limit : Nat} {talk after : Conversation}

/-- A read that brings octets brings at least one, and only such a read counts. -/
theorem read_counts {deadline : Option Nat} {result : Option (Except SessionError Reading)}
    (ended : read size deadline limit talk = (result, after)) :
    (result = some (.ok .more) ∧ after.timeline.reads = talk.timeline.reads + 1 ∧
      ∃ octets, octets ≠ [] ∧ after.session.received = talk.session.received ++ octets) ∨
    result ≠ some (.ok .more) ∧ after.timeline.reads = talk.timeline.reads := by
  have passed : ∀ {due ending timeline},
      talk.timeline.wait due deadline limit = (ending, timeline) →
        timeline.reads = talk.timeline.reads :=
    fun waited => Timeline.Quiet.reads_eq (.of_wait waited)
  cases fetches ended with
  | unlinked => exact .inr ⟨by simp, rfl⟩
  | dropped _ waited => exact .inr ⟨by simp, passed waited⟩
  | expired _ waited => exact .inr ⟨by simp, passed waited⟩
  | finished _ waited => exact .inr ⟨by simp, (quiet_shut _).reads_eq.trans (passed waited)⟩
  | failed _ waited => exact .inr ⟨by simp, (quiet_shut _).reads_eq.trans (passed waited)⟩
  | @more _ _ octets _ _ waited given =>
      refine .inl ⟨rfl, ?_, octets, Script.ne_nil_of_take given, rfl⟩
      rw [← passed waited]
      exact List.countP_append

theorem reads_drain {result : Except SessionError (List Tlv)}
    (drained : drain talk = (result, after)) : after.timeline.reads = talk.timeline.reads := by
  cases drains drained with
  | all => rfl
  | refused => exact (quiet_shut _).reads_eq

theorem reads_send (record : Tlv) (limit : Nat) (talk : Conversation) :
    (send record limit talk).2.timeline.reads = talk.timeline.reads := by
  have adds : talk.timeline.Adds (fun event => !event.delivers)
      (send record limit talk).2.timeline :=
    adds_send (fun _ _ => rfl) (fun _ => rfl) (fun _ => rfl) (fun _ => rfl) record limit talk
  exact adds.reads_eq fun _ still => by simpa using still

/-- No more reads have brought octets in between than octets were missing to a record. -/
def Frugal (talk after : Conversation) : Prop :=
  after.timeline.reads ≤ talk.timeline.reads + Tlv.missing talk.session.received

theorem Frugal.of_eq (same : after.timeline.reads = talk.timeline.reads) : Frugal talk after :=
  Nat.le_trans (Nat.le_of_eq same) (Nat.le_add_right ..)

/-- Behind a read that brought octets there is less missing. -/
theorem Frugal.of_more {middle : Conversation} {deadline : Option Nat}
    (nothing : Tlv.split? talk.session.received = none)
    (brought : read size deadline limit talk = (some (.ok .more), middle))
    (further : Frugal middle after) : Frugal talk after := by
  obtain ⟨-, counts, octets, full, received⟩ | ⟨other, -⟩ := read_counts brought
  case inr => exact absurd rfl other
  have less := Tlv.missing_append nothing full
  unfold Frugal at further ⊢
  rw [received] at further
  omega

/-- **A wait for an answer reads no more often than octets can be missing.** -/
theorem frugal_awaitAnswer (deadline : Option Nat) (limit : Nat) (talk : Conversation) :
    Frugal talk (awaitAnswer deadline limit talk).2 := by
  fun_induction awaitAnswer deadline limit talk with
  | case1 => exact .of_eq rfl
  | case2 => exact .of_eq (quiet_shut _).reads_eq
  | case3 _ _ _ ended | case4 _ _ _ _ ended | case5 _ _ _ ended =>
      obtain ⟨⟨⟩, -⟩ | ⟨-, same⟩ := read_counts ended
      exact .of_eq same
  | case6 _ waiting _ brought ih =>
      exact .of_more (Framing.next_eq_incomplete.mp waiting) brought ih
  | case7 _ _ middle ended _ closed | case8 _ _ middle ended _ closed =>
      obtain ⟨⟨⟩, -⟩ | ⟨-, same⟩ := read_counts ended
      have closing := (quiet_close limit middle).reads_eq
      rw [closed] at closing
      exact .of_eq (closing.trans same)

/-- So does a wait for a batch. -/
theorem frugal_awaitRecords (size deadline limit : Nat) (talk : Conversation)
    (nothing : Tlv.split? talk.session.received = none) :
    Frugal talk (awaitRecords size deadline limit talk).2 := by
  fun_induction awaitRecords size deadline limit talk with
  | case1 _ _ ended | case2 _ _ _ ended | case3 _ _ ended | case4 _ _ ended =>
      obtain ⟨⟨⟩, -⟩ | ⟨-, same⟩ := read_counts ended
      exact .of_eq same
  | case5 _ _ brought _ _ drained | case6 _ _ brought _ _ _ drained =>
      exact .of_more nothing brought (.of_eq (reads_drain drained))
  | case7 _ _ brought _ drained ih => exact .of_more nothing brought (ih (nothing_of_drain drained))

theorem frugal_marked {α : Type} {act : Act Conversation α}
    (frugal : Frugal (mark true talk) (act limit (mark true talk)).2) :
    Frugal talk (marked act limit talk).2 := by
  rw [marked_apply]
  rcases ended : act limit (mark true talk) with ⟨_ | _, after⟩
  all_goals
    rw [ended] at frugal
    exact frugal

theorem frugal_receive (size timeout limit : Nat) (talk : Conversation) :
    Frugal talk (receive size timeout limit talk).2 := by
  unfold receive
  refine frugal_marked ?_
  split
  next => exact .of_eq rfl
  next =>
    split
    next drained => exact .of_eq (reads_drain drained)
    next drained => exact .of_eq (reads_drain drained)
    next drained =>
      exact frugal_awaitRecords size _ limit (mark true talk) (nothing_of_drain drained)

theorem frugal_request (record : Tlv) (limit : Nat) (talk : Conversation) :
    Frugal talk (request record limit talk).2 := by
  unfold request
  refine frugal_marked ?_
  have sending : (send record limit (mark true talk)).2.timeline.reads = talk.timeline.reads :=
    reads_send record limit (mark true talk)
  rw [Act.bind_apply]
  rcases sent : send record limit (mark true talk) with ⟨_ | _ | _, middle⟩
  all_goals rw [sent] at sending
  case none => exact .of_eq sending
  case some.error => exact .of_eq sending
  case some.ok =>
    obtain ⟨_, _, wrote⟩ := send_ok sent
    have same : middle.session.received = talk.session.received := wrote.received
    have awaited := frugal_awaitAnswer
      (middle.session.limits.responseTimeout.map (middle.timeline.now + ·)) limit middle
    rw [Frugal, sending, same] at awaited
    exact awaited

/-! ## Calls that do not read -/

/-- Something else arrives on the link. -/
def arriving (arrivals : List Arrival) (talk : Conversation) : Conversation :=
  { talk with
    session :=
      { talk.session with
        link := talk.session.link.map fun link =>
          { link with far := { link.far with arrivals := arrivals } } } }

/-- An act that takes nothing of what arrives, and does the same whatever arrives. -/
def Deaf {α : Type} (act : Act Conversation α) (limit : Nat) (talk : Conversation) : Prop :=
  ∀ arrivals, act limit (talk.arriving arrivals) =
    ((act limit talk).1, (act limit talk).2.arriving arrivals)

@[simp] theorem shut_arriving (arrivals : List Arrival) (talk : Conversation) :
    (talk.arriving arrivals).shut = talk.shut.arriving arrivals := by
  unfold shut arriving Timeline.release
  cases talk.session.link <;> rfl

theorem link_arriving (arrivals : List Arrival) {talk : Conversation} {link : Link}
    (held : talk.session.link = some link) :
    (talk.arriving arrivals).session.link =
      some { link with far := { link.far with arrivals := arrivals } } := by
  rw [arriving, held]
  rfl

theorem flush_arriving (arrivals : List Arrival) (link : Link) (limit : Nat)
    (talk : Conversation) :
    flush { link with far := { link.far with arrivals := arrivals } } limit
        (talk.arriving arrivals) =
      ((flush link limit talk).1, (flush link limit talk).2.arriving arrivals) := by
  have apart : ∀ now, ({ link.far with arrivals := arrivals } : Script).flush limit now =
      ((link.far.flush limit now).1,
        { (link.far.flush limit now).2.1 with arrivals := arrivals },
        (link.far.flush limit now).2.2) := fun _ => rfl
  have present : (talk.arriving arrivals).timeline = talk.timeline := rfl
  simp only [flush, apart, present]
  rcases link.far.flush limit talk.timeline.now with ⟨ending, far, now⟩
  cases ending with
  | done => rfl
  | fault fault => rfl
  | stalled => rfl

/-- Sending a record reads nothing. -/
theorem deaf_send (record : Tlv) (limit : Nat) (talk : Conversation) :
    Deaf (send record) limit talk := by
  intro arrivals
  have phase : (talk.arriving arrivals).session.expect .established =
      talk.session.expect .established := rfl
  have framing : (talk.arriving arrivals).session.framing = talk.session.framing := rfl
  unfold send
  rw [phase, framing]
  cases talk.session.expect .established with
  | error => rfl
  | ok =>
      cases talk.session.framing.encode record with
      | error => rfl
      | ok octets =>
          cases held : talk.session.link with
          | none =>
              have none : (talk.arriving arrivals).session.link = none := by
                rw [arriving, held]
                rfl
              simp only [none, shut_arriving]
          | some link =>
              simp only [link_arriving arrivals held]
              have present : (talk.arriving arrivals).timeline = talk.timeline := rfl
              rw [present]
              rcases Script.writeAll limit link.far.acceptances octets talk.timeline.now with
                ⟨pieces, ending, rest, now⟩
              cases ending with
              | stalled => rfl
              | fault fault => rfl
              | done =>
                  let written : Link := { link with far := { link.far with acceptances := rest } }
                  let middle : Conversation :=
                    ⟨{ talk.session with link := some written },
                      (talk.timeline.advance now).noteWrites link.id pieces⟩
                  exact flush_arriving arrivals written limit middle

theorem deaf_marked {α : Type} {act : Act Conversation α} (deaf : Deaf act limit (mark true talk)) :
    Deaf (marked act) limit talk := by
  intro arrivals
  have heard : act limit (mark true (talk.arriving arrivals)) = _ := deaf arrivals
  rw [marked_apply, marked_apply, heard]
  rcases act limit (mark true talk) with ⟨_ | _, after⟩
  all_goals rfl

theorem deaf_bind {α β : Type} {first : Act Conversation α} {next : α → Act Conversation β}
    (begins : Deaf first limit talk)
    (goesOn : ∀ value middle, first limit talk = (some value, middle) →
      Deaf (next value) limit middle) : Deaf (first >>= next) limit talk := by
  intro arrivals
  rw [Act.bind_apply, Act.bind_apply, begins arrivals]
  rcases ended : first limit talk with ⟨_ | value, middle⟩
  case none => rfl
  case some => exact goesOn value middle ended arrivals

/-- A wait for an answer that is in the buffer already reads nothing. -/
theorem deaf_awaitAnswer (deadline : Option Nat) (limit : Nat) {talk : Conversation}
    (complete : Tlv.split? talk.session.received ≠ none) :
    Deaf (awaitAnswer deadline) limit talk := by
  intro arrivals
  have same : (talk.arriving arrivals).session.framing.next
      (talk.arriving arrivals).session.received =
    talk.session.framing.next talk.session.received := rfl
  cases found : talk.session.framing.next talk.session.received with
  | incomplete => exact absurd (Framing.next_eq_incomplete.mp found) complete
  | record record rest =>
      rw [awaitAnswer, same, found, awaitAnswer, found]
      rfl
  | tooLarge size rest =>
      rw [awaitAnswer, same, found, awaitAnswer, found]
      simp only [← shut_arriving]
      rfl

theorem drain_arriving (arrivals : List Arrival) (talk : Conversation) :
    drain (talk.arriving arrivals) = ((drain talk).1, (drain talk).2.arriving arrivals) := by
  unfold drain
  have framing : (talk.arriving arrivals).session.framing = talk.session.framing := rfl
  have received : (talk.arriving arrivals).session.received = talk.session.received := rfl
  rw [framing, received]
  rcases talk.session.framing.drain talk.session.received with ⟨records, _ | size, rest⟩
  case none => rfl
  case some =>
    simp only [← shut_arriving]
    rfl

/-- A batch that is in the buffer already is given without a read. -/
theorem deaf_receive (size timeout limit : Nat) {talk : Conversation}
    (complete : Tlv.split? talk.session.received ≠ none) :
    Deaf (receive size timeout) limit talk := by
  unfold receive
  refine deaf_marked fun arrivals => ?_
  have phase : ((mark true talk).arriving arrivals).session.expect .established =
      (mark true talk).session.expect .established := rfl
  simp only [phase, drain_arriving]
  cases (mark true talk).session.expect .established with
  | error => rfl
  | ok =>
      rcases drained : drain (mark true talk) with ⟨_ | _ | ⟨_, _⟩, after⟩
      case error => rfl
      case ok.cons => rfl
      case ok.nil => exact absurd (nothing_of_drain drained) complete

theorem deaf_request (record : Tlv) (limit : Nat) {talk : Conversation}
    (complete : Tlv.split? talk.session.received ≠ none) : Deaf (request record) limit talk := by
  unfold request
  refine deaf_marked (deaf_bind (deaf_send record limit _) fun result middle sent => ?_)
  cases result with
  | error => exact fun _ => rfl
  | ok =>
      obtain ⟨_, _, wrote⟩ := send_ok sent
      have same : middle.session.received = talk.session.received := wrote.received
      rw [← same] at complete
      exact fun arrivals => deaf_awaitAnswer _ limit complete arrivals

/-! ## Calls that return -/

/-- A wait up to a deadline is not dropped at a limit behind it. -/
theorem read_ne_none {deadline : Nat} (near : deadline ≤ limit) (size : Nat) (talk : Conversation) :
    (read size (some deadline) limit talk).1 ≠ none := by
  rcases ended : read size (some deadline) limit talk with ⟨result, after⟩
  cases fetches ended with
  | @dropped link _ _ waited =>
      have returns := talk.timeline.wait_ne_dropped link.far.readDue near
      rw [waited] at returns
      exact absurd rfl returns
  | _ => exact Option.some_ne_none _

theorem awaitRecords_ne_none {deadline : Nat} (near : deadline ≤ limit) (size : Nat)
    (talk : Conversation) : (awaitRecords size deadline limit talk).1 ≠ none := by
  fun_induction awaitRecords size deadline limit talk with
  | case1 talk _ dropped =>
      have returns := read_ne_none near size talk
      rw [dropped] at returns
      exact absurd rfl returns
  | case2 | case3 | case4 | case5 | case6 => exact Option.some_ne_none _
  | case7 _ _ _ _ _ ih => exact ih

theorem marked_eq_none_iff {α : Type} {act : Act Conversation α} :
    (marked act limit talk).1 = none ↔ (act limit (mark true talk)).1 = none := by
  rw [marked_apply]
  rcases act limit (mark true talk) with ⟨_ | _, after⟩ <;> exact Iff.rfl

/-- **A batch is returned by its timeout**, whatever arrives. -/
theorem receive_ne_none {timeout : Nat} (near : talk.timeline.now + timeout ≤ limit) (size : Nat) :
    (receive size timeout limit talk).1 ≠ none := by
  unfold receive
  refine mt marked_eq_none_iff.mp ?_
  split
  next => exact Option.some_ne_none _
  next =>
    split
    next => exact Option.some_ne_none _
    next => exact Option.some_ne_none _
    next => exact awaitRecords_ne_none near size (mark true talk)

/-- Whoever runs a request waits long enough for it, and the far end does not keep it waiting. -/
structure Attended (talk : Conversation) (limit : Nat) : Prop where
  /-- Every write and every flush is answered by a moment in time. Behind it the deadline passes in
  time as well, if there is one, and the shutdown behind that. -/
  accepts : ∃ moment, moment ≤ max talk.timeline.now limit ∧
    (∀ link ∈ talk.session.link, link.far.AnswersBy moment) ∧
    ∀ timeout ∈ talk.session.limits.responseTimeout,
      max talk.timeline.now moment + timeout + closeTimeout ≤ limit
  /-- Without a deadline every read is answered in time: as many bring octets as can be missing,
  or the stream ends or fails. -/
  answers : talk.session.limits.responseTimeout = none → ∀ link ∈ talk.session.link,
    (∀ piece ∈ link.far.pieces talk.session.limits.readSize, piece.due ≤ limit) ∧
      (Tlv.missing talk.session.received ≤
          (link.far.pieces talk.session.limits.readSize).length ∨
        ∃ piece ∈ link.far.pieces talk.session.limits.readSize,
          ∀ octets, piece.given ≠ .octets octets)

theorem flush_of_answered {moment : Nat} {link : Link} {talk after : Conversation}
    {result : Option (Except SessionError Unit)}
    (passed : flush link limit talk = (result, after))
    (answers : ∀ flushing ∈ link.far.flushes, flushing.AnsweredBy moment)
    (near : moment ≤ max talk.timeline.now limit) :
    result ≠ none ∧ after.timeline.now ≤ max talk.timeline.now moment := by
  cases flushes passed with
  | done told =>
      obtain ⟨-, soon⟩ := Script.flush_of_answered answers near told
      refine ⟨Option.some_ne_none _, ?_⟩
      simp only [Timeline.note, now_behindFlush]
      omega
  | failed told =>
      obtain ⟨-, soon⟩ := Script.flush_of_answered answers near told
      refine ⟨Option.some_ne_none _, ?_⟩
      simp only [now_shut, now_behindFlush]
      omega
  | stalled told => exact absurd rfl (Script.flush_of_answered answers near told).1

/-- Sending that is answered by a moment returns by then. -/
theorem send_of_answered {moment : Nat} {record : Tlv} {talk after : Conversation}
    {result : Option (Except SessionError Unit)}
    (ended : send record limit talk = (result, after))
    (answers : ∀ link ∈ talk.session.link, link.far.AnswersBy moment)
    (near : moment ≤ max talk.timeline.now limit) :
    result ≠ none ∧ after.timeline.now ≤ max talk.timeline.now moment := by
  have atOnce : talk.timeline.now ≤ max talk.timeline.now moment := Nat.le_max_left ..
  cases sends ended with
  | refused => exact ⟨Option.some_ne_none _, atOnce⟩
  | unwritable => exact ⟨Option.some_ne_none _, atOnce⟩
  | unlinked => exact ⟨Option.some_ne_none _, Nat.le_trans (Nat.le_of_eq (now_shut _)) atOnce⟩
  | stalled writes =>
      have prompt := answers _ writes.held
      exact absurd rfl (Script.writeAll_of_answered prompt.writes near writes.taken).1
  | failed writes =>
      have prompt := answers _ writes.held
      obtain ⟨-, soon⟩ := Script.writeAll_of_answered prompt.writes near writes.taken
      refine ⟨Option.some_ne_none _, ?_⟩
      simp only [now_shut, now_behindWrites]
      omega
  | @passing link _ pieces acceptances now _ _ writes passed =>
      have prompt := answers _ writes.held
      obtain ⟨-, soon⟩ := Script.writeAll_of_answered prompt.writes near writes.taken
      have further : moment ≤
          max (talk.behindWrites link pieces acceptances now).timeline.now limit := by
        rw [now_behindWrites]
        omega
      obtain ⟨returns, later⟩ := flush_of_answered passed prompt.flushes further
      rw [now_behindWrites] at later
      exact ⟨returns, by omega⟩

/-- Reads that are all answered do not come to an end before a record is complete. -/
theorem not_lapses {moment : Nat} {buffer : Octets} {pieces : List Arrival} {parts : List Part}
    (timely : ∀ piece ∈ pieces, piece.due ≤ moment)
    (answered : Tlv.missing buffer ≤ pieces.length ∨
      ∃ piece ∈ pieces, ∀ octets, piece.given ≠ .octets octets) :
    ¬ Lapses moment buffer pieces parts := by
  rintro ⟨later, consumes, nothing, late⟩
  obtain ⟨rfl, full⟩ := consumes.eq_append
  have last : later = [] := by
    cases later with
    | nil => rfl
    | cons piece later =>
        have inTime := timely piece (by simp)
        have beyond := late piece rfl
        omega
  subst last
  rw [List.append_nil] at answered
  rcases answered with enough | ⟨piece, member, ends⟩
  · have before : Tlv.split? buffer = none := by
      by_contra complete
      obtain ⟨⟨record, rest⟩, taken⟩ := Option.ne_none_iff_exists'.mp complete
      cases nothing.symm.trans (Tlv.split?_append taken (joined parts))
    have missing := Tlv.missing_of_nothing before
    have few := Tlv.length_lt_of_nothing nothing
    have many := length_le_joined full
    rw [List.length_map] at enough
    rw [List.length_append] at few
    omega
  · obtain ⟨part, among, rfl⟩ := List.mem_map.mp member
    exact ends _ (Part.given_arrival (full part among))

/-- **A request returns when it is attended to**: with an answer, without one, or with an error. -/
theorem request_ne_none (attended : Attended talk limit) (record : Tlv) :
    (request record limit talk).1 ≠ none := by
  obtain ⟨moment, near, answers, patience⟩ := attended.accepts
  have answersThen : ∀ link ∈ (mark true talk).session.link, link.far.AnswersBy moment := answers
  unfold request
  rw [Ne, marked_eq_none_iff, Act.bind_apply]
  rcases sent : send record limit (mark true talk) with ⟨_ | error | ⟨⟩, middle⟩
  all_goals obtain ⟨returns, soon⟩ := send_of_answered sent answersThen near
  case none => exact absurd rfl returns
  case some.error => exact Option.some_ne_none _
  case some.ok =>
    intro dropped
    obtain ⟨link, _, wrote⟩ := send_ok sent
    obtain ⟨far, held, arrivals⟩ := wrote.stillHeld
    have written : middle.timeline.now ≤ max talk.timeline.now moment := soon
    have received : middle.session.received = talk.session.received := wrote.received
    have limits : middle.session.limits = talk.session.limits := wrote.limits
    have pieces : ∀ size, far.pieces size = link.far.pieces size := fun size => by
      rw [Script.pieces, arrivals, Script.pieces]
    have early : ∀ bound ∈ middle.session.limits.responseTimeout.map (middle.timeline.now + ·),
        middle.timeline.now ≤ bound := by
      intro bound bounded
      obtain ⟨span, -, rfl⟩ := Option.map_eq_some_iff.mp bounded
      exact Nat.le_add_right ..
    obtain ⟨⟨parts, lapses⟩, ahead⟩ := (awaitAnswer_dropped_iff held early).mp dropped
    simp only [limits, received, pieces] at lapses ahead
    cases span : talk.session.limits.responseTimeout with
    | some timeout =>
        have patient := patience timeout span
        have closing := far.closingTime_le
        have beyond := ahead (middle.timeline.now + timeout) (by rw [span]; rfl)
        omega
    | none =>
        obtain ⟨timely, answered⟩ := attended.answers span link wrote.held
        rw [span] at lapses
        have horizon : ∀ piece ∈ link.far.pieces talk.session.limits.readSize,
            piece.due ≤ middle.timeline.horizon none limit :=
          fun piece member => Nat.le_trans (timely piece member) (Nat.le_max_right ..)
        exact not_lapses horizon answered lapses

/-! ## Both loops -/

/-- How often an act reads that waits for records. -/
structure Bounded {α : Type} (act : Act Conversation α) (talk : Conversation) : Prop where
  /-- With a complete record at the front of the buffer nothing is read, whatever arrives. -/
  idle : Tlv.split? talk.session.received ≠ none → ∀ limit,
    Deaf act limit talk ∧ (act limit talk).2.timeline.reads = talk.timeline.reads
  /-- Else no more reads bring octets than the buffer is short of 65539 octets. -/
  bounded : Tlv.split? talk.session.received = none → ∀ limit,
    (act limit talk).2.timeline.reads + talk.session.received.length ≤
      talk.timeline.reads + 65539

/-- An act that is frugal keeps the bound, and reads nothing if it is deaf as well. -/
theorem Bounded.of_frugal {α : Type} {act : Act Conversation α} {talk : Conversation}
    (frugal : ∀ limit, Frugal talk (act limit talk).2)
    (moves : ∀ limit, ∃ taken written, Moves talk taken written (act limit talk).2)
    (deaf : Tlv.split? talk.session.received ≠ none → ∀ limit, Deaf act limit talk) :
    Bounded act talk where
  idle complete limit := by
    refine ⟨deaf complete limit, Nat.le_antisymm ?_ ?_⟩
    · have most := frugal limit
      rwa [Frugal, Tlv.missing_of_complete complete] at most
    · obtain ⟨_, _, moves⟩ := moves limit
      obtain ⟨events, ledger⟩ := moves.exists_ledger
      rw [Timeline.reads, Timeline.reads, ledger.log, List.countP_append]
      exact Nat.le_add_right ..
  bounded nothing limit := by
    have most := frugal limit
    have missing := Tlv.missing_of_nothing nothing
    unfold Frugal at most
    unfold maxValueLength at missing
    omega

/-- **The reading loops make progress against any far end.** A batch and a request read nothing
while a record is in the buffer already, and else no more often than octets can be missing to one,
for every size of a read and every bound on values. A batch returns by its timeout, and a request
when it is attended to. Draining ends behind half as many records as there are octets. -/
theorem reading_progresses (talk : Conversation) :
    (∀ size timeout, Bounded (receive size timeout) talk ∧
      ∀ limit, talk.timeline.now + timeout ≤ limit → (receive size timeout limit talk).1 ≠ none) ∧
    (∀ record, Bounded (request record) talk ∧
      ∀ limit, Attended talk limit → (request record limit talk).1 ≠ none) ∧
    ∀ (framing : Framing) (buffer : Octets),
      (framing.drain buffer).records.length + (framing.drain buffer).refused.toList.length ≤
        buffer.length / 2 := by
  refine ⟨fun size timeout => ⟨?_, fun limit near => receive_ne_none near size⟩,
    fun record => ⟨?_, fun limit attended => request_ne_none attended record⟩,
    fun framing buffer => ?_⟩
  · exact .of_frugal (fun limit => frugal_receive size timeout limit talk)
      (fun limit => exists_moves_receive size timeout limit talk)
      fun complete limit => deaf_receive size timeout limit complete
  · exact .of_frugal (fun limit => frugal_request record limit talk)
      (fun limit => exists_moves_request record limit talk)
      fun complete limit => deaf_request record limit complete
  · have half := framing.length_drain buffer
    omega

/-- An established session that reads octet by octet and waits for answers without a bound, with
these octets in its buffer. On its link a record is complete at 4 milliseconds, and then the stream
ends. -/
def crawling (received : Octets) : Conversation where
  session := ⟨.established,
    some ⟨0, ⟨[.octets [0x82, 2, 65] 2, .octets [66, 1] 4, .finish 9], [], [], .orderly⟩⟩,
    none, received, { Limits.default with readSize := 0 }, false⟩
  timeline := .start

/-- With nothing in its buffer it reads four times for its answer, and a record that is in the
buffer already it gives without a read. -/
theorem reading_progresses_crawling :
    (request ⟨0x82, [63]⟩ 9 (crawling [])).1 ≠ none ∧
      (request ⟨0x82, [63]⟩ 9 (crawling [])).2.timeline.reads = 4 ∧
      (request ⟨0x82, [63]⟩ 9 (crawling [])).2.timeline.reads ≤ 65539 ∧
      (receive 0 5 9 (crawling [0x20, 0])).1 ≠ none ∧
      (receive 0 5 9 (crawling [0x20, 0])).2.timeline.reads = 0 := by
  have attended : Attended (crawling []) 9 := by
    constructor
    case accepts =>
      refine ⟨0, by decide, ?_, nofun⟩
      rintro link ⟨⟩
      exact ⟨nofun, nofun⟩
    case answers =>
      rintro - link ⟨⟩
      exact ⟨by decide +kernel, .inr ⟨.finish 9, by decide +kernel, nofun⟩⟩
  obtain ⟨-, requests, -⟩ := reading_progresses (crawling [])
  obtain ⟨batches, -⟩ := reading_progresses (crawling [0x20, 0])
  refine ⟨(requests _).2 9 attended, by decide +kernel, (requests _).1.bounded rfl 9,
    (batches 0 5).2 9 (by decide), ?_⟩
  exact ((batches 0 5).1.idle (by decide) 9).2

end Conversation

end Commissioner
