import Commissioner.Proofs.Session.Correlation
import Commissioner.Proofs.Session.Gate
import Commissioner.Proofs.Session.Unfinished

/-!
# What goes out on a link

A call that has a record to write goes through a stage of its own for that, in which it is
refused, or comes to an end with the record written, or breaks off because the link fails
(`Conversation.SendEnds`). So a call adds to what the link accepted the octets of its record,
all of them or the first ones, or nothing (`Conversation.Puts`). Once one has broken off the
session is closed and no further call adds anything.

What the link accepted in a history is put together from what its calls added
(`Conversation.run_writes`).
-/

set_option autoImplicit false

namespace Commissioner

/-- A session refuses a record for its length or writes it like any other. -/
theorem Session.encode_framing (session : Session) (record : Tlv) :
    session.framing.limit < record.value.length ∧
        session.framing.encode record =
          .error (session.framing.refusal record.value.length) ∨
      record.value.length ≤ session.framing.limit ∧
        ∃ wire, session.framing.encode record = .ok wire ∧ record.encode = .ok wire := by
  by_cases fits : record.value.length ≤ session.framing.limit
  case neg => exact .inl ⟨Nat.lt_of_not_le fits, if_neg fits⟩
  case pos =>
    have small : record.value.length ≤ maxValueLength := Nat.le_trans fits (Nat.min_le_right ..)
    have encoded : record.encode = .ok (record.header ++ record.value) := if_pos small
    exact .inr ⟨fits, _, (if_pos fits).trans encoded, encoded⟩

namespace Conversation

/-! ## The writing stage -/

/-- How the sending of a record ends. -/
inductive SendEnds (talk : Conversation) (record : Tlv) :
    Option (Except SessionError Unit) → Conversation → Prop where
  | refused (other : talk.session.phase ≠ .established) :
      SendEnds talk record (some (.error (talk.session.refusal .established))) talk
  | tooLong (phase : talk.session.phase = .established)
      (long : talk.session.framing.limit < record.value.length) :
      SendEnds talk record
        (some (.error (.framing (.record (talk.session.framing.refusal record.value.length))))) talk
  /-- There is no link left. -/
  | unlinked (none : talk.session.link = none) : SendEnds talk record (some (.error .closed)) talk.shut
  /-- The link fails amid the octets of the record, or when it is told to pass them on. -/
  | broken {after : Conversation} {fault : Fault} {wire : Octets} {events : List Event}
      (encoded : record.encode = .ok wire) (log : after.timeline.log = talk.timeline.log ++ events)
      (front : writes events <+: wire) (unpassed : ¬ PassedOn events)
      (closed : after.session.phase = .closed) :
      SendEnds talk record (some (.error (.fault fault))) after
  | done {after : Conversation} {link : Link} {pieces : List Octets}
      (wrote : Wrote talk record link pieces after) : SendEnds talk record (some (.ok ())) after
  | dropped {after : Conversation} {link : Link} {pieces : List Octets}
      (dropped : SendDropped talk record link pieces after) : SendEnds talk record none after

/-- No link has passed anything on in quiet events. -/
theorem not_passedOn_of_quiet {events : List Event}
    (quiet : ∀ event ∈ events, event.quiet = true) : ¬ PassedOn events := by
  rintro ⟨link, member⟩
  cases quiet _ member

/-- Once the link has failed the session is shut. -/
theorem SendEnds.of_fault {talk middle : Conversation} {record : Tlv} {fault : Fault}
    {wire : Octets} {events : List Event} (encoded : record.encode = .ok wire)
    (log : middle.timeline.log = talk.timeline.log ++ events) (front : writes events <+: wire)
    (unpassed : ¬ PassedOn events) :
    SendEnds talk record (some (.error (.fault fault))) middle.shut := by
  obtain ⟨more, shut, quiet⟩ := middle.quiet_shut
  have noted : middle.shut.timeline.log = talk.timeline.log ++ (events ++ more) := by
    rw [shut, log, List.append_assoc]
  refine .broken encoded noted ?_ ?_ rfl
  · rw [writes_append, writes_of_quiet quiet, List.append_nil]
    exact front
  · rw [passedOn_append]
    exact not_or_intro unpassed (not_passedOn_of_quiet quiet)

theorem send_ends {record : Tlv} {limit : Nat} {talk after : Conversation}
    {result : Option (Except SessionError Unit)}
    (ended : send record limit talk = (result, after)) : SendEnds talk record result after := by
  rcases result with _ | _ | ⟨⟩
  case none =>
    obtain ⟨link, pieces, dropped⟩ := send_dropped ended
    exact .dropped dropped
  case some.ok =>
    obtain ⟨link, pieces, wrote⟩ := send_ok ended
    exact .done wrote
  case some.error error =>
    cases sends ended with
    | refused refused =>
        have other : talk.session.phase ≠ .established := by
          intro same
          rw [Session.expect_of_eq same] at refused
          cases refused
        cases (Session.expect_of_ne other).symm.trans refused
        exact .refused other
    | unwritable established framed =>
        rcases talk.session.encode_framing record with ⟨long, refused⟩ | ⟨-, wire, written, -⟩
        case inl =>
          cases refused.symm.trans framed
          exact .tooLong established long
        case inr => cases written.symm.trans framed
    | unlinked none => exact .unlinked none
    | @failed link _ pieces _ _ _ taken =>
        have front := taken.takes.front
        rw [← writes_wrote link.id] at front
        exact .of_fault (Framing.encode_eq_of_ok taken.framed) rfl front
          (not_passedOn_wrote link.id pieces)
    | @passing link _ pieces _ _ _ _ taken passed =>
        have front := taken.takes.front
        rw [← writes_wrote link.id] at front
        cases flushes passed with
        | failed told =>
            refine .of_fault (Framing.encode_eq_of_ok taken.framed) (List.append_assoc ..) ?_ ?_
            · have silent : writes [.flushing link.id] = [] := rfl
              rw [writes_append, silent, List.append_nil]
              exact front
            · simp [PassedOn]

/-! ## What calls add -/

/-- Whether a call was dropped where it waited. -/
def Answer.isDropped : Answer → Bool
  | .dropped => true
  | _ => false

/-- The record that a call writes, if any. -/
def Call.record? : Call → Option Tlv
  | .send record | .request record => some record
  | _ => none

/-- How the writing stage of a call ends. A request is marked when it is begun. -/
def Call.sending (limit : Nat) (talk : Conversation) :
    Call → Option (Except SessionError Unit)
  | .send record => (Conversation.send record limit talk).1
  | .request record => (Conversation.send record limit (mark true talk)).1
  | _ => none

/-- The record that a call has written to its end, if it has. -/
def Call.sent (limit : Nat) (talk : Conversation) (call : Call) : List Tlv :=
  match call.sending limit talk with
  | some (.ok ()) => call.record?.toList
  | _ => []

/-- The writing stage of a call breaks off because the link fails. -/
def Call.Breaks (limit : Nat) (talk : Conversation) (call : Call) : Prop :=
  ∃ fault, call.sending limit talk = some (.error (.fault fault))

/-- The records that the calls of a history have written to their ends, in order. -/
def sentRecords : List (Call × Nat) → Conversation → List Tlv
  | [], _ => []
  | (call, limit) :: calls, talk =>
      call.sent limit talk ++ sentRecords calls (call.perform limit talk).2

/-- What a call adds to the octets that the link accepted. -/
inductive Puts (talk : Conversation) (call : Call) (limit : Nat) (after : Conversation) :
    Octets → Prop where
  | nothing (unsent : call.sent limit talk = []) (unbroken : ¬ call.Breaks limit talk) :
      Puts talk call limit after []
  | whole {record : Tlv} {wire : Octets} (sent : call.sent limit talk = [record])
      (unbroken : ¬ call.Breaks limit talk) (encoded : record.encode = .ok wire) :
      Puts talk call limit after wire
  /-- The first octets of its record, behind which the session is closed. -/
  | part {record : Tlv} {wire octets : Octets} (asks : call.record? = some record)
      (unsent : call.sent limit talk = []) (breaks : call.Breaks limit talk)
      (encoded : record.encode = .ok wire) (front : octets <+: wire)
      (closed : after.session.phase = .closed) : Puts talk call limit after octets

namespace Puts

variable {talk after : Conversation} {call : Call} {limit : Nat}

/-- A call that is refused before anything is written adds nothing. -/
theorem of_refused {error : SessionError}
    (refused : call.sending limit talk = some (.error error))
    (other : ∀ fault, error ≠ .fault fault) : Puts talk call limit after [] := by
  refine .nothing (by rw [Call.sent, refused]) ?_
  rintro ⟨fault, broken⟩
  cases refused.symm.trans broken
  exact other fault rfl

/-- What becomes of a record in its writing stage, the call adds. -/
theorem of_ends {marked middle : Conversation} {record : Tlv}
    {result : Option (Except SessionError Unit)} (ends : SendEnds marked record result middle)
    (asks : call.record? = some record) (sending : call.sending limit talk = result)
    (undropped : result ≠ none)
    (stays : middle.session.phase = .closed → after.session.phase = .closed) :
    ∃ events, middle.timeline.log = marked.timeline.log ++ events ∧
      Puts talk call limit after (writes events) := by
  cases ends with
  | refused =>
      refine ⟨[], (List.append_nil _).symm, .of_refused sending fun fault same => ?_⟩
      unfold Session.refusal at same
      split at same <;> cases same
  | tooLong => exact ⟨[], (List.append_nil _).symm, .of_refused sending nofun⟩
  | unlinked =>
      obtain ⟨events, log, quiet⟩ := marked.quiet_shut
      refine ⟨events, log, ?_⟩
      rw [writes_of_quiet quiet]
      exact .of_refused sending nofun
  | broken encoded log front _ closed =>
      exact ⟨_, log, .part asks (by rw [Call.sent, sending]) ⟨_, sending⟩ encoded front
        (stays closed)⟩
  | @done _ link pieces wrote =>
      refine ⟨_, wrote.log, ?_⟩
      rw [writes_transmission]
      refine .whole (by rw [Call.sent, sending, asks]; rfl) ?_ wrote.encoded
      rintro ⟨fault, broken⟩
      cases sending.symm.trans broken
  | dropped => exact absurd rfl undropped

end Puts

/-- A call without a record writes nothing. -/
theorem perform_unwritten {call : Call} (none : call.record? = none) (limit : Nat)
    (talk : Conversation) :
    ∃ events, (call.perform limit talk).2.timeline.log = talk.timeline.log ++ events ∧
      writes events = [] := by
  have unchanged : ∃ events, talk.timeline.log = talk.timeline.log ++ events ∧ writes events = [] :=
    ⟨[], (List.append_nil _).symm, rfl⟩
  cases call with
  | send => cases none
  | request => cases none
  | pass => exact unchanged
  | load credentials =>
      simp only [Call.perform]
      split
      next => exact unchanged
      next => exact unchanged
  | handshake name =>
      obtain ⟨events, ledger⟩ := (handshake_moves name limit talk).exists_ledger
      exact ⟨events, ledger.log, ledger.wrote⟩
  | close =>
      obtain ⟨events, ledger⟩ := (close_moves limit talk).exists_ledger
      exact ⟨events, ledger.log, ledger.wrote⟩
  | receive size timeout =>
      obtain ⟨_, moves, -⟩ := receive_accounts size timeout limit talk
      obtain ⟨events, ledger⟩ := moves.exists_ledger
      exact ⟨events, ledger.log, ledger.wrote⟩

/-- Behind its writing stage a request writes nothing. -/
theorem request_behind {record : Tlv} {limit : Nat} {talk middle : Conversation}
    {result : Option (Except SessionError Unit)}
    (sent : send record limit (mark true talk) = (result, middle)) (came : result ≠ none) :
    ∃ more, (request record limit talk).2.timeline.log = middle.timeline.log ++ more ∧
      writes more = [] ∧
      (middle.session.phase = .closed → (request record limit talk).2.session.phase = .closed) := by
  rcases result with _ | error | ⟨⟩
  case none => exact absurd rfl came
  case some.error =>
    have ended : request record limit talk = (some (.error error), mark false middle) := by
      rw [request, marked_apply, Act.bind_apply, sent]
      rfl
    rw [ended]
    exact ⟨[], (List.append_nil _).symm, rfl, fun closed => closed⟩
  case some.ok =>
    obtain ⟨link, pieces, wrote⟩ := send_ok sent
    rw [request_of_sent sent]
    generalize middle.session.limits.responseTimeout.map (middle.timeline.now + ·) = deadline
    obtain ⟨_, moves, -⟩ := awaitAnswer_accounts deadline limit wrote.phase
    obtain ⟨more, ledger⟩ := moves.exists_ledger
    refine ⟨more, ?_, ledger.wrote, fun closed => ?_⟩
    · rw [← ledger.log]
      rcases awaitAnswer deadline limit middle with ⟨_ | _, _⟩ <;> rfl
    · cases wrote.phase.symm.trans closed

/-- Whatever becomes of the sending of a record, the link accepts its octets from the front, and
all of them if it passes them on, as it does when the sending succeeds. -/
theorem send_front {record : Tlv} {wire : Octets} {limit : Nat} {talk after : Conversation}
    {result : Option (Except SessionError Unit)} (encoded : record.encode = .ok wire)
    (ended : send record limit talk = (result, after)) :
    ∃ events, after.timeline.log = talk.timeline.log ++ events ∧ writes events <+: wire ∧
      (PassedOn events → writes events = wire) ∧ (result = some (.ok ()) → PassedOn events) := by
  cases send_ends ended with
  | refused | tooLong =>
      exact ⟨[], (List.append_nil _).symm, List.nil_prefix, nofun, nofun⟩
  | unlinked =>
      obtain ⟨events, log, quiet⟩ := talk.quiet_shut
      have nothing := writes_of_quiet quiet
      exact ⟨events, log, by rw [nothing]; exact List.nil_prefix,
        fun passed => absurd passed (not_passedOn_of_quiet quiet), nofun⟩
  | broken same log front unpassed =>
      cases encoded.symm.trans same
      exact ⟨_, log, front, fun passed => absurd passed unpassed, nofun⟩
  | @done _ link pieces wrote =>
      cases encoded.symm.trans wrote.encoded
      have whole := writes_transmission link.id pieces
      exact ⟨_, wrote.log, whole ▸ List.prefix_refl _, fun _ => whole,
        fun _ => passedOn_transmission link.id pieces⟩
  | @dropped _ link pieces dropped =>
      obtain ⟨_, same, front⟩ := dropped.front
      obtain ⟨events, log, halts⟩ := dropped.log
      cases encoded.symm.trans same
      exact ⟨events, log, halts.writes_eq ▸ front,
        fun passed => absurd passed halts.not_passedOn, nofun⟩

/-- So does the link of a request, which writes nothing else. -/
theorem request_front {record : Tlv} {wire : Octets} (encoded : record.encode = .ok wire)
    (limit : Nat) (talk : Conversation) :
    ∃ events, (request record limit talk).2.timeline.log = talk.timeline.log ++ events ∧
      writes events <+: wire ∧ (PassedOn events → writes events = wire) ∧
      ∀ answer, (request record limit talk).1 = some (.ok answer) → writes events = wire := by
  rcases ended : send record limit (mark true talk) with ⟨result, middle⟩
  obtain ⟨events, log, front, whole, passes⟩ := send_front encoded ended
  rcases result with _ | error | ⟨⟩
  case none =>
    have dropped : request record limit talk = (none, middle) := by
      rw [request, marked_apply, Act.bind_apply, ended]
      rfl
    rw [dropped]
    exact ⟨events, log, front, whole, fun _ came => by cases came⟩
  case some.error =>
    have failed : request record limit talk = (some (.error error), mark false middle) := by
      rw [request, marked_apply, Act.bind_apply, ended]
      rfl
    rw [failed]
    exact ⟨events, log, front, whole, fun _ came => by cases came⟩
  case some.ok =>
    obtain ⟨more, behind, unwritten, -⟩ := request_behind ended (Option.some_ne_none _)
    have wrote : writes (events ++ more) = wire := by
      rw [writes_append, unwritten, List.append_nil]
      exact whole (passes rfl)
    refine ⟨events ++ more, ?_, wrote ▸ List.prefix_refl _, fun _ => wrote, fun _ _ => wrote⟩
    rw [behind, log, List.append_assoc]
    rfl

/-! ## Sessions without a limit of their own -/

/-- The only way for a read to fail is a fault of the link. -/
theorem fault_of_read {size limit : Nat} {deadline : Option Nat} {talk after : Conversation}
    {error : SessionError} (failed : read size deadline limit talk = (some (.error error), after)) :
    ∃ fault, error = .fault fault := by
  cases fetches failed with
  | failed => exact ⟨_, rfl⟩

theorem limits_of_read {size limit : Nat} {deadline : Option Nat} {talk after : Conversation}
    {result : Option (Except SessionError Reading)}
    (ended : read size deadline limit talk = (result, after)) :
    after.session.limits = talk.session.limits := by
  cases fetches ended with
  | unlinked => rfl
  | dropped => rfl
  | expired => rfl
  | finished => rfl
  | failed => rfl
  | more => rfl

theorem framing_limit_eq {session : Session} (full : session.limits.maxValue = maxValueLength) :
    session.framing.limit = maxValueLength := by
  rw [Session.framing, Framing.ofLimit, full, Nat.min_self]

theorem SendEnds.ne_framing {talk after : Conversation} {record : Tlv}
    {result : Option (Except SessionError Unit)} (ends : SendEnds talk record result after)
    (fits : record.value.length ≤ talk.session.framing.limit) (error : Framing.Error) :
    result ≠ some (.error (.framing error)) := by
  cases ends with
  | refused => unfold Session.refusal; split <;> exact nofun
  | tooLong _ long => exact absurd fits (Nat.not_le.mpr long)
  | unlinked | broken | done | dropped => exact nofun

theorem awaitAnswer_ne_framing {deadline : Option Nat} {limit : Nat} {talk : Conversation}
    (full : talk.session.limits.maxValue = maxValueLength) (error : Framing.Error) :
    (awaitAnswer deadline limit talk).1 ≠ some (.error (.framing error)) := by
  fun_induction awaitAnswer deadline limit talk with
  | case2 talk size rest found =>
      obtain ⟨record, split, rfl, long⟩ := Framing.next_eq_tooLarge.mp found
      rw [framing_limit_eq full] at long
      exact absurd (Tlv.length_value_le split) (Nat.not_le.mpr long)
  | case4 talk _ failure middle failed =>
      obtain ⟨fault, rfl⟩ := fault_of_read failed
      rintro ⟨⟩
  | case6 talk _ middle brought ih => exact ih (limits_of_read brought ▸ full)
  | _ => rintro ⟨⟩

/-- **A request whose record can be written does not fail for the length of a value**, neither
its own nor that of an answer, on a session that lets through what a record can hold. -/
theorem request_ne_framing {record : Tlv} {talk : Conversation}
    (full : talk.session.limits.maxValue = maxValueLength)
    (fits : record.value.length ≤ maxValueLength) (limit : Nat) (error : Framing.Error) :
    (request record limit talk).1 ≠ some (.error (.framing error)) := by
  rcases ended : send record limit (mark true talk) with ⟨_ | failure | ⟨⟩, middle⟩
  case none =>
    rw [request, marked_apply, Act.bind_apply, ended]
    rintro ⟨⟩
  case some.error =>
    have same : (request record limit talk).1 = some (.error failure) := by
      rw [request, marked_apply, Act.bind_apply, ended]
      rfl
    have roomy : (mark true talk).session.framing.limit = maxValueLength := framing_limit_eq full
    rw [same]
    intro framing
    refine (send_ends ended).ne_framing (roomy ▸ fits) error ?_
    cases framing
    rfl
  case some.ok =>
    obtain ⟨link, pieces, wrote⟩ := send_ok ended
    have still : middle.session.limits.maxValue = maxValueLength := wrote.limits ▸ full
    rw [request_of_sent ended]
    generalize middle.session.limits.responseTimeout.map (middle.timeline.now + ·) = deadline
    have read : (awaitAnswer deadline limit middle).1 ≠ some (.error (.framing error)) :=
      awaitAnswer_ne_framing still error
    rcases awaited : awaitAnswer deadline limit middle with ⟨_ | _, _⟩
    all_goals
      rw [awaited] at read
      exact read

/-- **A call that is not dropped adds its record, the front of it, or nothing.** -/
theorem perform_puts {call : Call} {limit : Nat} {talk : Conversation}
    (undropped : (call.perform limit talk).1.isDropped = false) :
    ∃ events, (call.perform limit talk).2.timeline.log = talk.timeline.log ++ events ∧
      Puts talk call limit (call.perform limit talk).2 (writes events) := by
  cases asks : call.record? with
  | none =>
      obtain ⟨events, log, unwritten⟩ := perform_unwritten asks limit talk
      have idle : call.sending limit talk = none := by
        cases call with
        | send => cases asks
        | request => cases asks
        | _ => rfl
      refine ⟨events, log, ?_⟩
      rw [unwritten]
      refine .nothing (by rw [Call.sent, idle]) ?_
      rintro ⟨fault, broken⟩
      cases idle.symm.trans broken
  | some record =>
      cases call with
      | send other =>
          cases asks
          rcases ended : send record limit talk with ⟨result, middle⟩
          have came : result ≠ none := by
            rintro rfl
            simp only [Call.perform, ended] at undropped
            cases undropped
          have sending : (Call.send record).sending limit talk = result := congrArg Prod.fst ended
          simp only [Call.perform, ended]
          exact Puts.of_ends (send_ends ended) rfl sending came fun closed => closed
      | request other =>
          cases asks
          rcases ended : send record limit (mark true talk) with ⟨result, middle⟩
          have came : result ≠ none := by
            rintro rfl
            simp only [Call.perform, request, marked_apply, Act.bind_apply, ended] at undropped
            cases undropped
          have sending : (Call.request record).sending limit talk = result :=
            congrArg Prod.fst ended
          obtain ⟨more, behind, unwritten, stays⟩ := request_behind ended came
          obtain ⟨events, log, puts⟩ := Puts.of_ends (send_ends ended) rfl sending came stays
          refine ⟨events ++ more, ?_, ?_⟩
          · exact behind.trans (by rw [log, List.append_assoc]; rfl)
          · rw [writes_append, unwritten, List.append_nil]
            exact puts
      | _ => cases asks

/-! ## Records that do not fit -/

theorem send_of_tooLong {talk : Conversation} {record : Tlv}
    (phase : talk.session.phase = .established)
    (long : talk.session.framing.limit < record.value.length) (limit : Nat) :
    send record limit talk =
      (some (.error (.framing (.record (talk.session.framing.refusal record.value.length)))),
        talk) := by
  rcases talk.session.encode_framing record with ⟨-, refused⟩ | ⟨fits, -⟩
  case inl => rw [send, Session.expect_of_eq phase, refused]
  case inr => exact absurd fits (Nat.not_le_of_lt long)

/-- A call whose record does not fit is refused, and changes no more than the mark of an
unfinished request. -/
theorem perform_of_tooLong {talk : Conversation} {call : Call} {record : Tlv}
    (asks : call.record? = some record) (phase : talk.session.phase = .established)
    (long : talk.session.framing.limit < record.value.length) (limit : Nat) :
    ∃ unfinished, call.perform limit talk =
      (.failed (.framing (.record (talk.session.framing.refusal record.value.length))),
        mark unfinished talk) := by
  cases call with
  | send other =>
      cases asks
      refine ⟨talk.session.unfinished, ?_⟩
      rw [Call.perform, send_of_tooLong phase long]
      rfl
  | request other =>
      cases asks
      refine ⟨false, ?_⟩
      have same : (mark true talk).session.phase = .established := phase
      have refused := send_of_tooLong same long limit
      simp only [Call.perform, request, marked_apply, Act.bind_apply, refused]
      rfl
  | _ => cases asks

/-- No move changes the bounds of a session. -/
theorem Moves.limits {talk after : Conversation} {taken : List Tlv} {written : Octets}
    (moves : Moves talk taken written after) : after.session.limits = talk.session.limits := by
  induction moves with
  | refl => rfl
  | head move _ ih =>
      refine ih.trans ?_
      cases move <;> rfl

/-! ## Histories -/

/-- On a closed session no call writes anything, and it stays closed. -/
theorem perform_of_closed {talk : Conversation} (closed : talk.session.phase = .closed)
    (call : Call) (limit : Nat) :
    call.sent limit talk = [] ∧ (call.perform limit talk).2.session.phase = .closed ∧
      ∃ events, (call.perform limit talk).2.timeline.log = talk.timeline.log ++ events ∧
        writes events = [] := by
  have other : talk.session.phase ≠ .established := by
    rw [closed]
    exact nofun
  have stays : (call.perform limit talk).2.session.phase = .closed := by
    obtain ⟨_, _, moves, -⟩ := perform_accounts limit talk call
    have forward := moves.place_le
    rw [closed] at forward
    exact Phase.eq_closed_of_le forward
  refine ⟨?_, stays, ?_⟩
  · cases call with
    | send record => rw [Call.sent, Call.sending, send_of_phase_ne other]
    | request record =>
        have begun : (mark true talk).session.phase ≠ .established := other
        rw [Call.sent, Call.sending, send_of_phase_ne begun]
    | _ => rfl
  · cases asks : call.record? with
    | none => exact perform_unwritten asks limit talk
    | some record =>
        have belongs : call.phase? = some .established := by
          cases call with
          | send => rfl
          | request => rfl
          | _ => cases asks
        obtain ⟨unfinished, refused⟩ := perform_of_phase_ne belongs other limit
        rw [refused]
        exact ⟨[], (List.append_nil _).symm, rfl⟩

theorem run_of_closed (calls : List (Call × Nat)) {talk : Conversation}
    (closed : talk.session.phase = .closed) :
    sentRecords calls talk = [] ∧
      ∃ events, (run calls talk).2.timeline.log = talk.timeline.log ++ events ∧
        writes events = [] := by
  induction calls generalizing talk with
  | nil => exact ⟨rfl, [], (List.append_nil _).symm, rfl⟩
  | cons next calls ih =>
      obtain ⟨call, limit⟩ := next
      obtain ⟨unsent, stays, events, log, unwritten⟩ := perform_of_closed closed call limit
      obtain ⟨none, more, behind, silent⟩ := ih stays
      refine ⟨?_, events ++ more, ?_, ?_⟩
      · rw [sentRecords, unsent, none, List.append_nil]
      · rw [run_cons, behind, log, List.append_assoc]
      · rw [writes_append, unwritten, silent, List.append_nil]

/-- What a history puts on the link behind the octets of the records that its calls have
written to their ends. -/
inductive Trails (calls : List (Call × Nat)) (talk : Conversation) : Octets → Prop where
  /-- Nothing, when no call breaks off. -/
  | nothing (unbroken : ∀ before call limit later, calls = before ++ (call, limit) :: later →
      ¬ call.Breaks limit (run before talk).2) : Trails calls talk []
  /-- The first octets of the record of a call that breaks off, or all of them. The session is
  closed then, and nothing is written from then on. -/
  | part {before later : List (Call × Nat)} {call : Call} {limit : Nat} {record : Tlv}
      {wire octets : Octets} (split : calls = before ++ (call, limit) :: later)
      (asks : call.record? = some record) (breaks : call.Breaks limit (run before talk).2)
      (encoded : record.encode = .ok wire) (front : octets <+: wire)
      (closed : (run (before ++ [(call, limit)]) talk).2.session.phase = .closed)
      (last : sentRecords calls talk = sentRecords before talk)
      (silent : ∃ more, (run calls talk).2.timeline.log =
        (run (before ++ [(call, limit)]) talk).2.timeline.log ++ more ∧ writes more = []) :
      Trails calls talk octets

/-- A call in front that does not break off changes nothing about how a history ends. -/
theorem Trails.cons {call : Call} {limit : Nat} {calls : List (Call × Nat)} {talk : Conversation}
    {octets : Octets} (unbroken : ¬ call.Breaks limit talk)
    (trails : Trails calls (call.perform limit talk).2 octets) :
    Trails ((call, limit) :: calls) talk octets := by
  cases trails with
  | nothing further =>
      refine .nothing fun before other moment later split => ?_
      cases before with
      | nil =>
          cases split
          exact unbroken
      | cons first before =>
          cases split
          exact further before other moment later rfl
  | @part before later _ _ _ _ _ split asks breaks encoded front closed last silent =>
      have joined : (call, limit) :: calls = ((call, limit) :: before) ++ _ :: later :=
        congrArg ((call, limit) :: ·) split
      refine .part joined asks breaks encoded front closed ?_ silent
      rw [sentRecords, last, sentRecords]

theorem exists_trails (calls : List (Call × Nat)) {talk : Conversation}
    (undropped : ∀ answer ∈ (run calls talk).1, answer.isDropped = false) :
    ∃ events wires octets,
      (run calls talk).2.timeline.log = talk.timeline.log ++ events ∧
      (sentRecords calls talk).mapM Tlv.encode = .ok wires ∧
      writes events = wires.flatten ++ octets ∧ Trails calls talk octets := by
  -- Along the calls, as long as each leaves the next one a link that has not failed.
  induction calls generalizing talk with
  | nil =>
      refine ⟨[], [], [], (List.append_nil _).symm, rfl, rfl, .nothing ?_⟩
      intro before call limit later split
      cases before <;> cases split
  | cons next calls ih =>
      obtain ⟨call, limit⟩ := next
      have now : (call.perform limit talk).1.isDropped = false := undropped _ List.mem_cons_self
      obtain ⟨events, log, puts⟩ := perform_puts now
      have joins : ∀ more, (run calls (call.perform limit talk).2).2.timeline.log =
          (call.perform limit talk).2.timeline.log ++ more →
            (run ((call, limit) :: calls) talk).2.timeline.log =
              talk.timeline.log ++ (events ++ more) := by
        intro more behind
        rw [run_cons, behind, log, List.append_assoc]
      generalize wrote : writes events = put at puts
      have laterUndropped : ∀ answer ∈ (run calls (call.perform limit talk).2).1,
          answer.isDropped = false :=
        fun answer member => undropped answer (List.mem_cons_of_mem _ member)
      cases puts with
      | nothing unsent unbroken =>
          obtain ⟨more, wires, octets, behind, encoded, written, trails⟩ := ih laterUndropped
          refine ⟨events ++ more, wires, octets, joins more behind, ?_, ?_, trails.cons unbroken⟩
          · rw [sentRecords, unsent]
            exact encoded
          · rw [writes_append, wrote, written]
            rfl
      | whole sent unbroken wire =>
          obtain ⟨more, wires, octets, behind, encoded, written, trails⟩ := ih laterUndropped
          refine ⟨events ++ more, put :: wires, octets, joins more behind, ?_, ?_,
            trails.cons unbroken⟩
          · rw [sentRecords, sent, List.singleton_append, List.mapM_cons, wire, encoded]
            rfl
          · rw [writes_append, wrote, written, List.flatten_cons, List.append_assoc]
      | part asks unsent breaks encoded front closed =>
          -- Behind a call that breaks off, the calls find the session closed.
          obtain ⟨rest, more, behind, silent⟩ := run_of_closed calls closed
          have none : sentRecords ((call, limit) :: calls) talk = [] := by
            rw [sentRecords, unsent, rest, List.append_nil]
          refine ⟨events ++ more, [], put, joins more behind, ?_, ?_, ?_⟩
          · rw [none]
            rfl
          · rw [writes_append, wrote, silent, List.append_nil]
            rfl
          · have alone : (call, limit) :: calls = [] ++ (call, limit) :: calls := rfl
            exact .part alone asks breaks encoded front closed none ⟨more, behind, silent⟩

theorem sublist_sentRecords (calls : List (Call × Nat)) (talk : Conversation) :
    (sentRecords calls talk).Sublist (calls.filterMap fun next => next.1.record?) := by
  induction calls generalizing talk with
  | nil => exact .slnil
  | cons next calls ih =>
      obtain ⟨call, limit⟩ := next
      have here : (call.sent limit talk).Sublist call.record?.toList := by
        unfold Call.sent
        split
        next => exact .refl _
        next => exact List.nil_sublist _
      have asked : ((call, limit) :: calls).filterMap (fun next => next.1.record?) =
          call.record?.toList ++ calls.filterMap fun next => next.1.record? := by
        cases asks : call.record? with
        | none => rw [List.filterMap_cons, asks]; rfl
        | some record => rw [List.filterMap_cons, asks]; rfl
      rw [asked]
      exact here.append (ih _)

/-- The bounds of a session, and with them its framing, are those that it began with. -/
theorem framing_run (calls : List (Call × Nat)) (talk : Conversation) :
    (run calls talk).2.session.framing = talk.session.framing := by
  obtain ⟨_, _, moves, -⟩ := run_moves calls talk
  rw [Session.framing, moves.limits, Session.framing]

/-- **What a link accepts in a history** in which no call is dropped, in whatever pieces and
with whatever faults its far end takes it. It is the octets of the records that were written to
their ends, one behind the other in the order of the calls, and behind them at most the front of
one more record, with which the link failed and the session was closed. No call writes its record
twice. A record that does not fit is refused, and nothing but the mark of an unfinished request
changes. -/
theorem run_writes (calls : List (Call × Nat)) (talk : Conversation)
    (undropped : ∀ answer ∈ (run calls talk).1, answer.isDropped = false) :
    (∃ events wires octets,
      (run calls talk).2.timeline.log = talk.timeline.log ++ events ∧
      (sentRecords calls talk).mapM Tlv.encode = .ok wires ∧
      writes events = wires.flatten ++ octets ∧ Trails calls talk octets) ∧
    (sentRecords calls talk).Sublist (calls.filterMap fun next => next.1.record?) ∧
    ∀ before call limit later record, calls = before ++ (call, limit) :: later →
      call.record? = some record → (run before talk).2.session.phase = .established →
      talk.session.framing.limit < record.value.length →
      ∃ unfinished, call.perform limit (run before talk).2 =
        (.failed (.framing (.record
          (.valueTooLarge record.value.length talk.session.framing.limit))),
          mark unfinished (run before talk).2) := by
  refine ⟨exists_trails calls undropped, sublist_sentRecords calls talk, ?_⟩
  intro before call limit later record _ asks phase long
  rw [← framing_run before talk] at long ⊢
  exact perform_of_tooLong asks phase long limit

/-- An established session whose link takes one octet, is busy up to 3 milliseconds, takes the next
writes whole, then two octets, and then none. -/
def faltering : Conversation where
  session := ⟨.established,
    some ⟨1, ⟨[.octets [0x82, 0] 5],
      [.upTo 1, .busy 3, .all, .all, .upTo 2, .upTo 0], [], .orderly⟩⟩,
    none, [], { Limits.default with maxValue := 3 }, false⟩
  timeline := .start

/-- The second record does not fit, the link fails amid the fourth, and the fifth is refused. -/
theorem run_writes_faltering :
    ∃ events octets,
      (run [(.send ⟨0x82, [65]⟩, 100), (.send ⟨0x82, [1, 2, 3, 4]⟩, 100),
        (.request ⟨0x82, [66]⟩, 100), (.send ⟨0x82, [67]⟩, 100), (.send ⟨0x82, [68]⟩, 100)]
        faltering).2.timeline.log = [] ++ events ∧
      writes events = [0x82, 1, 65, 0x82, 1, 66] ++ octets ∧
      Trails [(.send ⟨0x82, [65]⟩, 100), (.send ⟨0x82, [1, 2, 3, 4]⟩, 100),
        (.request ⟨0x82, [66]⟩, 100), (.send ⟨0x82, [67]⟩, 100), (.send ⟨0x82, [68]⟩, 100)]
        faltering octets := by
  obtain ⟨⟨events, wires, octets, log, encoded, written, trails⟩, -⟩ :=
    run_writes [(.send ⟨0x82, [65]⟩, 100), (.send ⟨0x82, [1, 2, 3, 4]⟩, 100),
      (.request ⟨0x82, [66]⟩, 100), (.send ⟨0x82, [67]⟩, 100), (.send ⟨0x82, [68]⟩, 100)]
      faltering (by decide +kernel)
  refine ⟨events, octets, log, ?_, trails⟩
  have sent : sentRecords [(.send ⟨0x82, [65]⟩, 100), (.send ⟨0x82, [1, 2, 3, 4]⟩, 100),
      (.request ⟨0x82, [66]⟩, 100), (.send ⟨0x82, [67]⟩, 100), (.send ⟨0x82, [68]⟩, 100)]
      faltering = [⟨0x82, [65]⟩, ⟨0x82, [66]⟩] := by
    decide +kernel
  rw [sent] at encoded
  cases encoded
  exact written

end Conversation

end Commissioner
