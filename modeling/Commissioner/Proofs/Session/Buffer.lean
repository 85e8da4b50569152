import Commissioner.Proofs.Session.Exchange
import Commissioner.Proofs.Session.Outgoing
import Commissioner.Proofs.Tlv.Agreement

/-!
# How much a session holds in its buffer

A session reads only while no record is complete at the front of its buffer. So the buffer never
holds more than the beginning of one record and what a single read brought behind it, and no read
brings more than it asks for. How long that beginning can be depends on what records can declare,
and not on the bound of the session: a value that is longer than the bound is waited for like any
other, and refused when it is there. Only where such a record stands at the front does the buffer
hold more than the bound accounts for (`Conversation.run_contained`).
-/

set_option autoImplicit false

namespace Commissioner

/-! ## The front of a buffer -/

namespace Tlv

/-- A buffer in which no record is complete, with no more than so many octets behind. -/
def Ahead (surplus : Nat) (buffer : Octets) : Prop :=
  ∃ front last, buffer = front ++ last ∧ split? front = none ∧ last.length ≤ surplus

/-- A record that becomes complete only behind the front leaves less than what came behind. -/
theorem length_rest_le {front last rest : Octets} {record : Tlv} (nothing : split? front = none)
    (taken : split? (front ++ last) = some (record, rest)) : rest.length ≤ last.length := by
  obtain ⟨spelling, same, stable⟩ := exists_spelling_of_split? taken
  rcases List.append_eq_append_iff.mp same with ⟨more, rfl, rfl⟩ | ⟨more, rfl, rfl⟩
  · rw [List.length_append]
    omega
  · cases nothing.symm.trans (stable more)

namespace Ahead

theorem nil (surplus : Nat) : Ahead surplus [] :=
  ⟨[], [], rfl, rfl, Nat.zero_le surplus⟩

theorem mono {fewer more : Nat} {buffer : Octets} (ahead : Ahead fewer buffer)
    (le : fewer ≤ more) : Ahead more buffer := by
  obtain ⟨front, last, split, nothing, few⟩ := ahead
  exact ⟨front, last, split, nothing, Nat.le_trans few le⟩

theorem take {surplus : Nat} {buffer rest : Octets} {record : Tlv} (ahead : Ahead surplus buffer)
    (taken : split? buffer = some (record, rest)) : Ahead surplus rest := by
  obtain ⟨front, last, rfl, nothing, few⟩ := ahead
  exact ⟨[], rest, rfl, rfl, Nat.le_trans (length_rest_le nothing taken) few⟩

/-- A buffer that is longer than a bound on values accounts for begins with a record that
declares a longer value. -/
theorem exists_declared {surplus bound : Nat} {buffer : Octets} (ahead : Ahead surplus buffer)
    (long : 3 + bound + surplus < buffer.length) :
    ∃ tag declared body, Header.read buffer = .complete tag declared body ∧ bound < declared := by
  obtain ⟨front, last, rfl, nothing, few⟩ := ahead
  rw [List.length_append] at long
  unfold split? at nothing
  cases read : Header.read front with
  | incomplete needed =>
      have unfinished := Header.read_eq_incomplete.mp read
      have := Header.size_le front
      omega
  | complete tag declared body =>
      simp only [read] at nothing
      split at nothing
      next missing =>
        obtain ⟨spelling, spelled, stable⟩ := Header.exists_spelling read
        obtain ⟨-, -, length⟩ := Header.body_of_read read
        have := Header.size_le front
        refine ⟨tag, declared, body ++ last, ?_, by omega⟩
        rw [spelled, List.append_assoc]
        exact stable (body ++ last)
      next => cases nothing

theorem length_le {surplus : Nat} {buffer : Octets} (ahead : Ahead surplus buffer) :
    buffer.length ≤ 3 + maxValueLength + surplus := by
  by_contra longer
  obtain ⟨tag, declared, body, read, more⟩ := ahead.exists_declared (Nat.lt_of_not_le longer)
  exact Nat.not_lt_of_le (Header.declared_le read) more

end Ahead

end Tlv

/-! ## The size of deliveries -/

/-- The number of octets that the largest delivery among events brought. -/
def largestDelivery : List Event → Nat
  | [] => 0
  | event :: events => max event.delivery.length (largestDelivery events)

theorem largestDelivery_le_iff {events : List Event} {size : Nat} :
    largestDelivery events ≤ size ↔ ∀ event ∈ events, event.delivery.length ≤ size := by
  induction events with
  | nil => simp [largestDelivery]
  | cons event events ih => rw [largestDelivery, Nat.max_le, ih, List.forall_mem_cons]

theorem le_largestDelivery {events : List Event} {event : Event} (member : event ∈ events) :
    event.delivery.length ≤ largestDelivery events :=
  largestDelivery_le_iff.mp (Nat.le_refl _) event member

theorem largestDelivery_le_append (earlier later : List Event) :
    largestDelivery earlier ≤ largestDelivery (earlier ++ later) :=
  largestDelivery_le_iff.mpr fun _ member => le_largestDelivery (List.mem_append_left later member)

/-- The event brings no more than so many octets. -/
def Event.fits (size : Nat) (event : Event) : Bool :=
  event.delivery.length ≤ size

theorem Event.fits_of_quiet (size : Nat) {event : Event} (quiet : event.quiet = true) :
    event.fits size = true := by
  cases event with
  | delivered => cases quiet
  | _ => exact decide_eq_true (Nat.zero_le size)

theorem Timeline.Quiet.fits {before after : Timeline} (quiet : before.Quiet after) (size : Nat) :
    before.Adds (Event.fits size) after :=
  Adds.mono quiet fun _ => Event.fits_of_quiet size

/-- A read takes as many octets as it asks for, and one if that is none. -/
theorem Script.length_take_le {script after : Script} {count : Nat} {octets : Octets}
    (given : script.take count = (.octets octets, after)) : octets.length ≤ count + 1 := by
  unfold take at given
  split at given
  next => cases given
  next => cases given
  next =>
    cases given
    rw [List.length_cons, List.length_take]
    omega
  next => cases given
  next => cases given

theorem Script.ne_nil_of_take {script after : Script} {count : Nat} {octets : Octets}
    (given : script.take count = (.octets octets, after)) : octets ≠ [] := by
  unfold take at given
  split at given
  next => cases given
  next => cases given
  next =>
    cases given
    exact List.cons_ne_nil _ _
  next => cases given
  next => cases given

namespace Conversation

/-- Whatever was delivered from one moment of a session to another came in portions of no more
than so many octets. -/
def Brings (size : Nat) (talk after : Conversation) : Prop :=
  talk.timeline.Adds (Event.fits size) after.timeline

namespace Brings

variable {size : Nat} {talk middle after : Conversation}

theorem of_quiet (quiet : talk.timeline.Quiet after.timeline) : Brings size talk after :=
  quiet.fits size

theorem of_log (same : after.timeline.log = talk.timeline.log) : Brings size talk after :=
  Timeline.Adds.of_log same

theorem trans (earlier : Brings size talk middle) (later : Brings size middle after) :
    Brings size talk after :=
  Timeline.Adds.trans earlier later

theorem mono {more : Nat} (brings : Brings size talk after) (le : size ≤ more) :
    Brings more talk after :=
  Timeline.Adds.mono brings fun _ fits =>
    decide_eq_true (Nat.le_trans (of_decide_eq_true fits) le)

theorem shut (brings : Brings size talk after) : Brings size talk after.shut :=
  brings.trans (of_quiet (quiet_shut after))

end Brings

variable {size limit : Nat} {talk after : Conversation}

theorem brings_send (size : Nat) (record : Tlv) (limit : Nat) (talk : Conversation) :
    Brings size talk (send record limit talk).2 :=
  have carried : ∀ event : Event, event.delivery = [] → event.fits size = true :=
    fun event none => decide_eq_true (by rw [none]; exact Nat.zero_le size)
  adds_send (fun _ _ => carried _ rfl) (fun _ => carried _ rfl) (fun _ => carried _ rfl)
    (fun _ => carried _ rfl) record limit talk

theorem brings_handshake (size : Nat) (name : String) (limit : Nat) (talk : Conversation) :
    Brings size talk (handshake name limit talk).2 := by
  rcases ended : handshake name limit talk with ⟨result, after⟩
  cases handshake_ends ended with
  | refused => exact .of_log rfl
  | secured _ quiet =>
      exact (quiet.fits size).trans (Timeline.Adds.note (decide_eq_true (Nat.zero_le size)))
  | failed _ quiet => exact .of_quiet quiet
  | dropped _ quiet => exact .of_quiet quiet

theorem brings_read {deadline : Option Nat} {result : Option (Except SessionError Reading)}
    (ended : read size deadline limit talk = (result, after)) :
    Brings (max 1 size) talk after := by
  have passed : ∀ session {due ending timeline},
      talk.timeline.wait due deadline limit = (ending, timeline) →
        Brings (max 1 size) talk ⟨session, timeline⟩ :=
    fun _ _ _ _ waited => .of_quiet (.of_wait waited)
  cases fetches ended with
  | unlinked => exact .of_log rfl
  | dropped _ waited => exact passed _ waited
  | expired _ waited => exact passed _ waited
  | finished _ waited => exact (passed _ waited).shut
  | failed _ waited => exact (passed _ waited).shut
  | @more _ _ octets _ _ waited given =>
      have portion : octets.length ≤ max 1 size := by
        have := Script.length_take_le given
        omega
      exact (passed talk.session waited).trans (Timeline.Adds.note (decide_eq_true portion))

theorem brings_drain (size : Nat) {result : Except SessionError (List Tlv)}
    (drained : drain talk = (result, after)) : Brings size talk after := by
  cases drains drained with
  | all => exact .of_log rfl
  | refused => exact .of_quiet (quiet_shut _)

theorem brings_awaitAnswer (deadline : Option Nat) (limit : Nat) (talk : Conversation) :
    Brings (max 1 talk.session.limits.readSize) talk (awaitAnswer deadline limit talk).2 := by
  fun_induction awaitAnswer deadline limit talk with
  | case1 => exact .of_log rfl
  | case2 => exact .of_quiet (quiet_shut _)
  | case3 _ _ _ ended | case4 _ _ _ _ ended | case5 _ _ _ ended => exact brings_read ended
  | case6 talk _ _ ended ih =>
      rw [limits_of_read ended] at ih
      exact (brings_read ended).trans ih
  | case7 _ _ middle ended _ closed | case8 _ _ middle ended _ closed =>
      have closing := quiet_close limit middle
      rw [closed] at closing
      exact (brings_read ended).trans (.of_quiet closing)

theorem brings_awaitRecords (size deadline limit : Nat) (talk : Conversation) :
    Brings (max 1 size) talk (awaitRecords size deadline limit talk).2 := by
  fun_induction awaitRecords size deadline limit talk with
  | case1 _ _ ended | case2 _ _ _ ended | case3 _ _ ended | case4 _ _ ended =>
      exact brings_read ended
  | case5 _ _ ended _ _ drained | case6 _ _ ended _ _ _ drained =>
      exact (brings_read ended).trans (brings_drain _ drained)
  | case7 _ _ ended _ _ ih => exact (brings_read ended).trans ih

theorem brings_marked {α : Type} {act : Act Conversation α}
    (brings : Brings size (mark true talk) (act limit (mark true talk)).2) :
    Brings size talk (marked act limit talk).2 := by
  rw [marked_apply]
  rcases ended : act limit (mark true talk) with ⟨_ | _, after⟩
  all_goals
    rw [ended] at brings
    exact brings

theorem brings_request (record : Tlv) (limit : Nat) (talk : Conversation) :
    Brings (max 1 talk.session.limits.readSize) talk (request record limit talk).2 := by
  unfold request
  refine brings_marked ?_
  have sending := brings_send (max 1 talk.session.limits.readSize) record limit (mark true talk)
  have moved := exists_moves_send record limit (mark true talk)
  rw [Act.bind_apply]
  rcases sent : send record limit (mark true talk) with ⟨_ | _ | _, middle⟩
  all_goals rw [sent] at sending moved
  case none => exact sending
  case some.error => exact sending
  case some.ok =>
    obtain ⟨_, _, moves⟩ := moved
    have same : middle.session.limits = talk.session.limits := moves.limits
    rw [← same] at sending ⊢
    exact sending.trans (brings_awaitAnswer _ limit middle)

theorem brings_receive (size timeout limit : Nat) (talk : Conversation) :
    Brings (max 1 size) talk (receive size timeout limit talk).2 := by
  unfold receive
  refine brings_marked ?_
  split
  next => exact .of_log rfl
  next =>
    split
    next drained => exact brings_drain _ drained
    next drained => exact brings_drain _ drained
    next => exact brings_awaitRecords size _ limit _

/-! ## Calls and histories -/

/-- How much a call reads at a time, on a session that keeps these limits. -/
def Call.readSize (limits : Limits) : Call → Nat
  | .request _ => max 1 limits.readSize
  | .receive size _ => max 1 size
  | _ => 1

/-- The most that any of the calls reads at a time. -/
def largestRead (limits : Limits) : List (Call × Nat) → Nat
  | [] => 1
  | (call, _) :: calls => max (call.readSize limits) (largestRead limits calls)

/-- **No call is brought more at a time than it asks for.** -/
theorem brings_perform (limit : Nat) (talk : Conversation) (call : Call) :
    Brings (call.readSize talk.session.limits) talk (call.perform limit talk).2 := by
  cases call with
  | pass => exact .of_log rfl
  | load credentials =>
      simp only [Call.perform]
      split <;> exact .of_log rfl
  | handshake name => exact brings_handshake _ name limit talk
  | send record => exact brings_send _ record limit talk
  | request record => exact brings_request record limit talk
  | receive size timeout => exact brings_receive size timeout limit talk
  | close => exact .of_quiet (quiet_close limit talk)

theorem brings_run (calls : List (Call × Nat)) (talk : Conversation) :
    Brings (largestRead talk.session.limits calls) talk (run calls talk).2 := by
  induction calls generalizing talk with
  | nil => exact .of_log rfl
  | cons next calls ih =>
      obtain ⟨call, limit⟩ := next
      obtain ⟨_, _, moves, -⟩ := perform_accounts limit talk call
      have later := ih (call.perform limit talk).2
      rw [moves.limits] at later
      exact ((brings_perform limit talk call).mono (Nat.le_max_left ..)).trans
        (later.mono (Nat.le_max_right ..))

/-! ## What the buffer holds -/

/-- The buffer is ahead of its records by no more than the largest delivery. -/
theorem Move.ahead {middle : Conversation} {taken : List Tlv} {written : Octets}
    {events : List Event} (ahead : Tlv.Ahead (largestDelivery events) middle.session.received)
    (move : Move middle taken written after) :
    ∃ more, after.timeline.log = middle.timeline.log ++ more ∧
      Tlv.Ahead (largestDelivery (events ++ more)) after.session.received := by
  obtain ⟨more, ledger⟩ := move.exists_ledger
  have still := ahead.mono (largestDelivery_le_append events more)
  refine ⟨more, ledger.log, ?_⟩
  cases move with
  | deliver _ _ nothing _ =>
      -- What was delivered is noted, so it is no larger than the largest delivery.
      have noted := List.append_cancel_left ledger.log
      refine ⟨_, _, rfl, nothing, ?_⟩
      rw [← noted]
      exact le_largestDelivery
        (List.mem_append_right events (List.mem_singleton_self (.delivered _ _)))
  | take taken => exact still.take taken
  | _ => exact still

theorem Moves.ahead {taken : List Tlv} {written : Octets} {events : List Event}
    (ahead : Tlv.Ahead (largestDelivery events) talk.session.received)
    (moves : Moves talk taken written after) :
    ∃ more, after.timeline.log = talk.timeline.log ++ more ∧
      Tlv.Ahead (largestDelivery (events ++ more)) after.session.received := by
  induction moves generalizing events with
  | refl => exact ⟨[], by rw [List.append_nil], by rwa [List.append_nil]⟩
  | head move _ ih =>
      obtain ⟨first, log, here⟩ := move.ahead ahead
      obtain ⟨rest, logRest, there⟩ := ih here
      exact ⟨first ++ rest, by rw [logRest, log, List.append_assoc],
        by rwa [← List.append_assoc]⟩

/-- A session gets from one conversation to another through conversations of a kind. -/
inductive Passes (kind : Conversation → Prop) : Conversation → Conversation → Prop where
  | rest {talk : Conversation} (is : kind talk) : Passes kind talk talk
  | move {talk middle after : Conversation} {taken : List Tlv} {written : Octets}
      (is : kind talk) (move : Move talk taken written middle)
      (further : Passes kind middle after) : Passes kind talk after

/-- It does when every conversation on the way is of that kind. -/
theorem Moves.passes {kind : Conversation → Prop} {taken : List Tlv} {written : Octets}
    (moves : Moves talk taken written after)
    (every : ∀ middle, (∃ taken written, Moves talk taken written middle) →
      (∃ taken written, Moves middle taken written after) → kind middle) :
    Passes kind talk after := by
  induction moves with
  | refl talk => exact .rest (every talk ⟨_, _, .refl talk⟩ ⟨_, _, .refl talk⟩)
  | @head talk _ _ _ _ _ _ move further ih =>
      refine .move (every talk ⟨_, _, .refl talk⟩ ⟨_, _, .head move further⟩) move (ih ?_)
      rintro middle ⟨_, _, before⟩ behind
      exact every middle ⟨_, _, .head move before⟩ behind

/-- What a session does with a record whose value is longer than its bound. -/
structure Refuses (talk : Conversation) (tag : UInt8) (declared : Nat) (body : Octets) : Prop where
  /-- It is waited for while its value is not there. -/
  waits : body.length < declared → drain talk = (.ok [], talk)
  /-- It is refused when its value is there, and the session is closed. -/
  drain : declared ≤ body.length → drain talk =
    (.error (.framing (.record (.valueTooLarge declared talk.session.framing.limit))),
      shut { talk with session := { talk.session with received := body.drop declared } })
  answer : declared ≤ body.length → ∀ deadline limit, awaitAnswer deadline limit talk =
    (some (.error (.framing (.record (.valueTooLarge declared talk.session.framing.limit)))),
      shut { talk with session := { talk.session with received := body.drop declared } })

theorem refuses {tag : UInt8} {declared : Nat} {body : Octets}
    (front : Header.read talk.session.received = .complete tag declared body)
    (long : talk.session.framing.limit < declared) : Refuses talk tag declared body := by
  have tooLarge : declared ≤ body.length →
      talk.session.framing.next talk.session.received = .tooLarge declared (body.drop declared) := by
    intro there
    have taken : Tlv.split? talk.session.received =
        some (⟨tag, body.take declared⟩, body.drop declared) := by
      simp only [Tlv.split?, front, if_neg (Nat.not_lt_of_le there)]
    refine Framing.next_eq_tooLarge.mpr ⟨_, taken, ?_, long⟩
    exact List.length_take_of_le there
  constructor
  case waits =>
    intro missing
    refine drain_of_nothing ?_
    simp only [Tlv.split?, front, if_pos missing]
  case drain =>
    intro there
    simp only [Conversation.drain, Framing.drain_of_tooLarge (tooLarge there), Framing.refusal]
    rfl
  case answer =>
    intro there deadline limit
    rw [awaitAnswer]
    split
    next found => cases found.symm.trans (tooLarge there)
    next found =>
      cases found.symm.trans (tooLarge there)
      rfl
    next found => cases found.symm.trans (tooLarge there)

/-- What a session that keeps these limits holds in its buffer behind events on its link, when
no read asked for more than `size`. -/
structure Contained (limits : Limits) (size : Nat) (events : List Event) (talk : Conversation) :
    Prop where
  kept : talk.session.limits = limits
  /-- No read brings more than it asks for. -/
  brought : largestDelivery events ≤ size
  /-- The buffer holds no more than the longest beginning of a record, and one read behind it. -/
  bounded : talk.session.received.length ≤ 3 + maxValueLength + largestDelivery events
  /-- It holds more than the bound on values accounts for only while a record stands at its front
  that declares a longer one. -/
  declared : 3 + min limits.maxValue maxValueLength + largestDelivery events <
      talk.session.received.length →
    ∃ tag declared body, Header.read talk.session.received = .complete tag declared body ∧
      min limits.maxValue maxValueLength < declared
  /-- Such a record is waited for, and then refused. -/
  refused : ∀ tag declared body, Header.read talk.session.received = .complete tag declared body →
    min limits.maxValue maxValueLength < declared → Refuses talk tag declared body

/-- **A session never holds more in its buffer than the beginning of one record and one read**,
whatever arrives, and more than its own bound accounts for only while a longer record stands at
the front, which is refused once its value is there. -/
theorem run_contained (link : Link) (limits : Limits) (timeline : Timeline)
    (calls : List (Call × Nat)) :
    Passes (fun talk => ∃ events, talk.timeline.log = timeline.log ++ events ∧
        Contained limits (largestRead limits calls) events talk)
      ⟨Session.onLink link limits, timeline⟩
      (run calls ⟨Session.onLink link limits, timeline⟩).2 := by
  obtain ⟨_, _, moves, -⟩ := run_moves calls ⟨Session.onLink link limits, timeline⟩
  refine moves.passes ?_
  rintro middle ⟨_, _, before⟩ ⟨_, _, behind⟩
  have same : middle.session.limits = limits := before.limits
  have bound : middle.session.framing.limit = min limits.maxValue maxValueLength := by
    rw [← same]
    rfl
  obtain ⟨events, log, ahead⟩ := before.ahead (Tlv.Ahead.nil (largestDelivery []))
  refine ⟨events, log, same, ?_, ahead.length_le, ahead.exists_declared, ?_⟩
  · -- What was delivered on the way was delivered in the calls.
    obtain ⟨whole, logWhole, sized⟩ := brings_run calls ⟨Session.onLink link limits, timeline⟩
    obtain ⟨more, ledger⟩ := behind.exists_ledger
    have parts : whole = events ++ more := by
      have logs := ledger.log
      rw [log, logWhole, List.append_assoc] at logs
      exact List.append_cancel_left logs
    rw [largestDelivery_le_iff]
    intro event member
    refine of_decide_eq_true (sized event ?_)
    rw [parts]
    exact List.mem_append_left more member
  · intro tag declared body front long
    exact refuses front (by rwa [bound])

/-- A new session that takes no value at all, on a link from which the beginning of a record
comes that declares six octets. -/
def gorged : Conversation where
  session := Session.onLink ⟨0, ⟨[.octets [0x82, 6, 1, 2, 3, 4] 0], [], [], .orderly⟩⟩
    { Limits.default with maxValue := 0 }
  timeline := .start

/-- The handshake, and a batch that is read octet by octet. -/
def nibbling : List (Conversation.Call × Nat) :=
  [(.load (.settled (some 0) .accept), 1000), (.handshake "DeviceType", 1000),
    (.receive 1 100, 1000)]

/-- The buffer holds four octets of a value that is refused in the end, which is more than a
header, the longest value that is let through and a read come to. -/
theorem received_exceeds_bound :
    (run nibbling gorged).2.session.phase = .established ∧
      Header.read (run nibbling gorged).2.session.received = .complete 0x82 6 [1, 2, 3, 4] ∧
      4 + min gorged.session.limits.maxValue maxValueLength
          + largestRead gorged.session.limits nibbling <
        (run nibbling gorged).2.session.received.length := by
  decide +kernel

end Conversation

end Commissioner
