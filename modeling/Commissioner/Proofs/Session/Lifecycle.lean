import Commissioner.Proofs.Session.Moves

/-!
# The life of a session

A session passes through its phases in one order, and every move keeps to it
(`Conversation.Move.place_le`). Records may travel from the moment on at which the
credentials handed back a link in time (`Secures`), and only a call for the handshake
comes to that. A closed session stays closed and holds nothing.

A call that belongs to another phase is refused, and leaves everything but the mark of an
unfinished request as it was (`perform_of_phase_ne`).
-/

set_option autoImplicit false

namespace Commissioner

/-- The place of a phase in the order in which sessions pass through them. -/
def Phase.place : Phase → Nat
  | .uninitialized => 0
  | .handshaking => 1
  | .established => 2
  | .closed => 3

/-- The last phase is the one in which a session is closed. -/
theorem Phase.place_le_closed (phase : Phase) : phase.place ≤ Phase.closed.place := by
  cases phase <;> decide

theorem Phase.eq_closed_of_le {phase : Phase} (last : Phase.closed.place ≤ phase.place) :
    phase = .closed := by
  cases phase with
  | closed => rfl
  | _ => exact absurd last (by decide)

namespace Session

/-- The error of an operation that belongs to another phase than the present one. -/
def refusal (session : Session) (expected : Phase) : SessionError :=
  if session.phase = .closed then .closed else .wrongPhase expected session.phase

theorem expect_of_ne {session : Session} {expected : Phase} (other : session.phase ≠ expected) :
    session.expect expected = .error (session.refusal expected) := by
  unfold expect refusal
  rw [if_neg other]
  split <;> rfl

theorem expect_of_eq {session : Session} {expected : Phase} (same : session.phase = expected) :
    session.expect expected = .ok () :=
  if_pos same

/-- A closed session holds neither a link nor credentials. -/
def Sound (session : Session) : Prop :=
  session.phase = .closed → session.link = none ∧ session.handshake = none

end Session

/-! ## Handshakes in time -/

/-- What is ready under a deadline is ready by then. -/
theorem Timeline.now_le_of_ready {timeline after : Timeline} {due : Option Nat}
    {deadline limit : Nat} (early : timeline.now ≤ deadline)
    (waited : timeline.wait due (some deadline) limit = (.ready, after)) :
    after.now ≤ deadline := by
  simp only [wait] at waited
  split at waited
  next reached =>
    cases waited
    cases due with
    | none => cases reached
    | some moment =>
        simp only [reaches, decide_eq_true_eq] at reached
        simp only [advance, Option.getD_some]
        omega
  next => split at waited <;> cases waited

namespace Handshake

/-- No answer that is given beforehand makes TLS succeed. -/
theorem followTls_ne_secured (link secured : Link) (deadline limit : Nat)
    (exchange : Tls.Exchange) (timeline : Timeline) :
    (followTls link deadline limit exchange timeline).1 ≠ .secured secured := by
  fun_induction followTls link deadline limit exchange timeline
  case case10 ih => exact ih
  all_goals
    intro same
    cases same

/-- A link that is handed back is handed back by the deadline. -/
theorem now_le_of_secured {handshake : Handshake} {name : String} {link secured : Link}
    {deadline limit : Nat} {timeline after : Timeline} (early : timeline.now ≤ deadline)
    (negotiated : handshake.negotiate name link deadline limit timeline =
      (.secured secured, after)) :
    after.now ≤ deadline := by
  cases handshake with
  | tls authorities =>
      simp only [negotiate, carryOutTls] at negotiated
      split at negotiated
      next => exact absurd (congrArg Prod.fst negotiated) (followTls_ne_secured _ _ _ _ _ _)
      next => cases negotiated
  | settled delay verdict =>
      simp only [negotiate] at negotiated
      split at negotiated
      next middle waited =>
        have begun : (timeline.note (.handshake name)).now ≤ deadline := early
        have inTime := Timeline.now_le_of_ready begun waited
        cases verdict with
        | accept => cases negotiated; exact inTime
        | refuse _ => cases negotiated
        | refuseName => cases negotiated
        | replace _ => cases negotiated; exact inTime
      next => cases negotiated
      next => cases negotiated

end Handshake

namespace Conversation

/-- A session handed its link to its credentials, and they handed back a link on which
records may travel, in time. -/
structure Secures (talk : Conversation) (name : String) (limit : Nat)
    (credentials : Handshake) (raw secured : Link) (timeline : Timeline) : Prop where
  phase : talk.session.phase = .handshaking
  loaded : talk.session.handshake = some credentials
  held : talk.session.link = some raw
  negotiated : credentials.negotiate name raw
    (talk.timeline.now + talk.session.limits.handshakeTimeout) limit talk.timeline =
      (.secured secured, timeline)
  inTime : timeline.now ≤ talk.timeline.now + talk.session.limits.handshakeTimeout

/-- How a call for the handshake ends. -/
inductive HandshakeEnds (talk : Conversation) (name : String) (limit : Nat) :
    Option (Except SessionError Unit) → Conversation → Prop where
  /-- The session is in another phase. -/
  | refused (other : talk.session.phase ≠ .handshaking) :
      HandshakeEnds talk name limit (some (.error (talk.session.refusal .handshaking))) talk
  /-- The credentials hand back a link on which records may travel. -/
  | secured {credentials : Handshake} {raw secured : Link} {timeline : Timeline}
      (secures : Secures talk name limit credentials raw secured timeline)
      (quiet : talk.timeline.Quiet timeline) :
      HandshakeEnds talk name limit (some (.ok ()))
        ⟨{ talk.session with phase := .established, handshake := none, link := some secured },
          timeline.note (.secured secured.id)⟩
  /-- They do not, or there is nothing to hand over. -/
  | failed {error : SessionError} {after : Conversation}
      (phase : talk.session.phase = .handshaking) (quiet : talk.timeline.Quiet after.timeline)
      (closed : after.session.phase = .closed) (unlinked : after.session.link = none)
      (unloaded : after.session.handshake = none) :
      HandshakeEnds talk name limit (some (.error error)) after
  /-- The call is dropped, and with it what was handed over. -/
  | dropped {timeline : Timeline} (phase : talk.session.phase = .handshaking)
      (quiet : talk.timeline.Quiet timeline) :
      HandshakeEnds talk name limit none
        ⟨{ talk.session with handshake := none, link := none }, timeline⟩

theorem handshake_ends {name : String} {limit : Nat} {talk after : Conversation}
    {result : Option (Except SessionError Unit)}
    (ended : handshake name limit talk = (result, after)) :
    HandshakeEnds talk name limit result after := by
  unfold handshake at ended
  by_cases phase : talk.session.phase = .handshaking
  case neg =>
    rw [Session.expect_of_ne phase] at ended
    cases ended
    exact .refused phase
  case pos =>
    rw [Session.expect_of_eq phase] at ended
    simp only at ended
    split at ended
    next credentials raw loaded held =>
      have quiet := credentials.quiet_negotiate name raw
        (talk.timeline.now + talk.session.limits.handshakeTimeout) limit talk.timeline
      split at ended
      next secured timeline negotiated =>
        rw [negotiated] at quiet
        have inTime := Handshake.now_le_of_secured (Nat.le_add_right ..) negotiated
        cases ended
        exact .secured ⟨phase, loaded, held, negotiated, inTime⟩ quiet
      next refused =>
        rw [refused] at quiet
        cases ended
        exact .failed phase quiet rfl rfl rfl
      next expired =>
        rw [expired] at quiet
        cases ended
        exact .failed phase quiet rfl rfl rfl
      next dropped =>
        rw [dropped] at quiet
        cases ended
        exact .dropped phase quiet
    next =>
      cases ended
      exact .failed phase talk.quiet_shut rfl rfl rfl

/-! ## Moves keep the order of phases -/

/-- **No move leads back to an earlier phase.** -/
theorem Move.place_le {talk after : Conversation} {taken : List Tlv} {written : Octets}
    (move : Move talk taken written after) :
    talk.session.phase.place ≤ after.session.phase.place := by
  cases move with
  | load _ fresh =>
      rw [fresh]
      exact Nat.zero_le _
  | secure _ handshaking =>
      rw [handshaking]
      exact Nat.le_succ 1
  | shut => exact Phase.place_le_closed _
  | _ => exact Nat.le_refl _

theorem Moves.place_le {talk after : Conversation} {taken : List Tlv} {written : Octets}
    (moves : Moves talk taken written after) :
    talk.session.phase.place ≤ after.session.phase.place := by
  induction moves with
  | refl => exact Nat.le_refl _
  | head move _ ih => exact Nat.le_trans move.place_le ih

/-- **Every move leaves a closed session without link and credentials.** -/
theorem Move.sound {talk after : Conversation} {taken : List Tlv} {written : Octets}
    (move : Move talk taken written after) (sound : talk.session.Sound) : after.session.Sound := by
  intro closed
  cases move with
  | load => cases closed
  | secure => cases closed
  | surrender handshaking => exact ⟨rfl, rfl⟩
  | write established => cases established.symm.trans closed
  | flush established => cases established.symm.trans closed
  | flushed _ established => cases established.symm.trans closed
  | deliver established => cases established.symm.trans closed
  | part => exact ⟨rfl, (sound closed).2⟩
  | shut => exact ⟨rfl, rfl⟩
  | idle => exact sound closed
  | mark => exact sound closed
  | take => exact sound closed

theorem Moves.sound {talk after : Conversation} {taken : List Tlv} {written : Octets}
    (moves : Moves talk taken written after) (sound : talk.session.Sound) :
    after.session.Sound := by
  induction moves with
  | refl => exact sound
  | head move _ ih => exact ih (move.sound sound)

/-- What can be reached from a new session is sound. -/
theorem sound_run (calls : List (Call × Nat)) (link : Link) (limits : Limits)
    (timeline : Timeline) :
    (run calls ⟨Session.onLink link limits, timeline⟩).2.session.Sound := by
  obtain ⟨_, _, moves, -⟩ := run_moves calls ⟨Session.onLink link limits, timeline⟩
  exact moves.sound nofun

/-! ## Calls out of phase -/

/-- The phase that a call belongs to, unless it may be made in any. -/
def Call.phase? : Call → Option Phase
  | .load _ => some .uninitialized
  | .handshake _ => some .handshaking
  | .send _ | .request _ | .receive _ _ => some .established
  | .pass _ | .close => none

theorem send_of_phase_ne {talk : Conversation} (other : talk.session.phase ≠ .established)
    (record : Tlv) (limit : Nat) :
    send record limit talk = (some (.error (talk.session.refusal .established)), talk) := by
  rw [send, Session.expect_of_ne other]

/-- **A call out of phase is refused**, and changes no more than the mark of an unfinished
request. -/
theorem perform_of_phase_ne {talk : Conversation} {call : Call} {expected : Phase}
    (belongs : call.phase? = some expected) (other : talk.session.phase ≠ expected)
    (limit : Nat) :
    ∃ unfinished, call.perform limit talk =
      (.failed (talk.session.refusal expected), mark unfinished talk) := by
  cases call with
  | pass => cases belongs
  | close => cases belongs
  | load credentials =>
      cases belongs
      refine ⟨talk.session.unfinished, ?_⟩
      simp only [Call.perform, Session.load, Session.expect_of_ne other]
      rfl
  | handshake name =>
      cases belongs
      refine ⟨talk.session.unfinished, ?_⟩
      simp only [Call.perform, handshake, Session.expect_of_ne other]
      rfl
  | send record =>
      cases belongs
      refine ⟨talk.session.unfinished, ?_⟩
      simp only [Call.perform, send_of_phase_ne other]
      rfl
  | request record =>
      cases belongs
      refine ⟨false, ?_⟩
      have begun : (mark true talk).session.phase ≠ .established := other
      simp only [Call.perform, request, marked_apply, Act.bind_apply, send_of_phase_ne begun]
      rfl
  | receive size timeout =>
      cases belongs
      refine ⟨false, ?_⟩
      have begun : (mark true talk).session.phase ≠ .established := other
      have refused : receive size timeout limit talk =
          (some (.error (talk.session.refusal .established)), mark false talk) := by
        refine (marked_apply _ limit talk).trans ?_
        simp only [Session.expect_of_ne begun]
        rfl
      simp only [Call.perform, refused]
      rfl

/-- Closing ends in the last phase, unless it is dropped. -/
theorem phase_close (limit : Nat) (talk : Conversation) :
    (close limit talk).2.session.phase = .closed ∨
      (close limit talk).2.session.phase = talk.session.phase := by
  rcases ended : close limit talk with ⟨result, after⟩
  cases closes ended with
  | unlinked => exact .inl rfl
  | dropped => exact .inr rfl
  | done => exact .inl rfl

theorem phase_of_close {limit : Nat} {talk after : Conversation}
    (closed : close limit talk = (some (), after)) : after.session.phase = .closed := by
  cases closes closed with
  | unlinked => rfl
  | done => rfl

/-! ## Calls -/

/-- What one call does to the life of a session. -/
structure Advances (before : Conversation) (call : Call) (limit : Nat) (answer : Answer)
    (after : Conversation) : Prop where
  /-- No call leads back to an earlier phase. -/
  forward : before.session.phase.place ≤ after.session.phase.place
  /-- Records may travel only once a call for the handshake was handed back a link in time. -/
  entered : after.session.phase = .established → before.session.phase ≠ .established →
    ∃ name credentials raw secured timeline,
      call = .handshake name ∧ answer = .done ∧
      Secures before name limit credentials raw secured timeline ∧
      after.session.link = some secured
  /-- A handshake that fails closes the session. -/
  failed : ∀ name error, call = .handshake name → before.session.phase = .handshaking →
    answer = .failed error → after.session.phase = .closed
  /-- A closed session stays closed. -/
  terminal : before.session.phase = .closed → after.session.phase = .closed
  /-- It holds neither a link nor credentials. -/
  bare : after.session.phase = .closed →
    after.session.link = none ∧ after.session.handshake = none
  /-- A call out of phase is refused. Nothing is noted and no time passes; phase, link,
  credentials and buffer stay as they were. -/
  refused : ∀ expected, call.phase? = some expected → before.session.phase ≠ expected →
    (before.session.phase = .closed → answer = .failed .closed) ∧
    (before.session.phase ≠ .closed →
      answer = .failed (.wrongPhase expected before.session.phase)) ∧
    ∃ unfinished, after = mark unfinished before

/-- A call that opens the way for records is one for the handshake, which came to a link in
time. -/
theorem exists_secures_of_established {talk after : Conversation} {call : Call} {limit : Nat}
    {answer : Answer} (performed : call.perform limit talk = (answer, after))
    (established : after.session.phase = .established)
    (fresh : talk.session.phase ≠ .established) :
    ∃ name credentials raw secured timeline,
      call = .handshake name ∧ answer = .done ∧
      Secures talk name limit credentials raw secured timeline ∧
      talk.timeline.Quiet timeline ∧
      after = ⟨{ talk.session with phase := .established, handshake := none, link := some secured },
        timeline.note (.secured secured.id)⟩ := by
  -- Calls that belong to established sessions are refused.
  have refused : call.phase? = some .established → False := by
    intro belongs
    obtain ⟨unfinished, same⟩ := perform_of_phase_ne belongs fresh limit
    rw [performed] at same
    cases same
    exact fresh established
  cases call with
  | send => exact (refused rfl).elim
  | request => exact (refused rfl).elim
  | receive => exact (refused rfl).elim
  | pass span =>
      cases performed
      exact absurd established fresh
  | load credentials =>
      by_cases phase : talk.session.phase = .uninitialized
      case pos =>
        simp only [Call.perform, Session.load, Session.expect_of_eq phase] at performed
        cases performed
        cases established
      case neg =>
        have belongs : (Call.load credentials).phase? = some .uninitialized := rfl
        obtain ⟨unfinished, same⟩ := perform_of_phase_ne belongs phase limit
        rw [performed] at same
        cases same
        exact absurd established fresh
  | close =>
      have phases := phase_close limit talk
      have ended : (close limit talk).2 = after := congrArg Prod.snd performed
      rw [ended, established] at phases
      rcases phases with closed | same
      · cases closed
      · exact absurd same.symm fresh
  | handshake name =>
      simp only [Call.perform] at performed
      cases ended : handshake name limit talk with
      | mk result other =>
        rw [ended] at performed
        cases performed
        cases handshake_ends ended with
        | refused => exact absurd established fresh
        | failed _ _ closed => cases closed.symm.trans established
        | dropped phase => cases phase.symm.trans established
        | secured secures quiet => exact ⟨name, _, _, _, _, rfl, rfl, secures, quiet, rfl⟩

/-- A call for the handshake that fails leaves the session closed. -/
theorem closed_of_handshake_failed {talk after : Conversation} {name : String} {limit : Nat}
    {error : SessionError} (phase : talk.session.phase = .handshaking)
    (performed : (Call.handshake name).perform limit talk = (.failed error, after)) :
    after.session.phase = .closed := by
  simp only [Call.perform] at performed
  cases ended : handshake name limit talk with
  | mk result other =>
    rw [ended] at performed
    cases handshake_ends ended with
    | refused elsewhere => exact absurd phase elsewhere
    | failed _ _ closed => cases performed; exact closed
    | dropped => cases performed
    | secured => cases performed

theorem perform_advances {talk : Conversation} (sound : talk.session.Sound) (call : Call)
    (limit : Nat) :
    Advances talk call limit (call.perform limit talk).1 (call.perform limit talk).2 := by
  obtain ⟨_, _, moves, -⟩ := perform_accounts limit talk call
  constructor
  case forward => exact moves.place_le
  case entered =>
    intro established fresh
    obtain ⟨name, credentials, raw, secured, timeline, asked, done, secures, -, same⟩ :=
      exists_secures_of_established (Prod.eta _).symm established fresh
    exact ⟨name, credentials, raw, secured, timeline, asked, done, secures, by rw [same]⟩
  case failed =>
    rintro name error rfl phase failed
    exact closed_of_handshake_failed phase (Prod.ext failed rfl)
  case terminal =>
    intro closed
    have forward := moves.place_le
    rw [closed] at forward
    exact Phase.eq_closed_of_le forward
  case bare => exact moves.sound sound
  case refused =>
    intro expected belongs other
    obtain ⟨unfinished, same⟩ := perform_of_phase_ne belongs other limit
    rw [same]
    refine ⟨fun closed => ?_, fun opened => ?_, unfinished, rfl⟩
    · rw [Session.refusal, if_pos closed]
    · rw [Session.refusal, if_neg opened]

/-- **The life of a session.** Whatever calls are made on a new session, over any link and
with any credentials, and wherever they are dropped: the next call, whichever it is and
wherever it is dropped, takes the session a step on in its life. -/
theorem run_advances (link : Link) (limits : Limits) (timeline : Timeline)
    (calls : List (Call × Nat)) (call : Call) (limit : Nat) :
    Advances (run calls ⟨Session.onLink link limits, timeline⟩).2 call limit
      (call.perform limit (run calls ⟨Session.onLink link limits, timeline⟩).2).1
      (call.perform limit (run calls ⟨Session.onLink link limits, timeline⟩).2).2 :=
  perform_advances (sound_run calls link limits timeline) call limit

end Conversation

end Commissioner
