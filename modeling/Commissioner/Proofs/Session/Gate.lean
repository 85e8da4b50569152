import Commissioner.Proofs.Session.Delivery
import Commissioner.Proofs.Session.Lifecycle

/-!
# Nothing travels before the handshake

A session is handed a raw link, and hands it on to its credentials. Until they hand a link
back, the session itself neither reads from the raw link nor writes to it nor asks it to
pass anything on. From then on, whatever travels is what the link that was handed back
makes of it, one use after another (`Carries`): each use finds the far end as the one
before left it.

When a handshake does not come to a link, nothing ever travels: what was handed over is
gone, so no later handshake succeeds (`Conversation.quiet_of_handshake_ne_done`).
-/

set_option autoImplicit false

namespace Commissioner

/-! ## What a link carries -/

/-- The link on which something travels in an event, or is passed on. -/
def Event.traffic? : Event → Option Nat
  | .wrote link _ | .delivered link _ | .flushing link | .flushed link => some link
  | _ => none

theorem Event.traffic?_of_quiet {event : Event} (quiet : event.quiet = true) :
    event.traffic? = none := by
  cases event with
  | wrote => cases quiet
  | delivered => cases quiet
  | flushing => cases quiet
  | flushed => cases quiet
  | _ => rfl

/-- From one moment to another, all that travels is carried by the link that was held at
first, each use of it finding it as the one before left it. Once it is let go, nothing
travels. -/
inductive Carries : Option Link → List Event → Option Link → Prop where
  | refl (held : Option Link) : Carries held [] held
  | quiet {held after : Option Link} {event : Event} {events : List Event}
      (quiet : event.quiet = true) (further : Carries held events after) :
      Carries held (event :: events) after
  /-- The link accepts octets in pieces. -/
  | write {link : Link} {after : Option Link} {octets : Octets} {pieces : List Octets}
      {ending : Script.WriteEnd} {acceptances : List Acceptance} {events : List Event}
      {limit now later : Nat}
      (taken : Script.writeAll limit link.far.acceptances octets now =
        (pieces, ending, acceptances, later))
      (further : Carries
        (some { link with far := { link.far with acceptances := acceptances } }) events after) :
      Carries (some link) (pieces.map (Event.wrote link.id) ++ events) after
  /-- The link is told to pass on what it holds, whatever comes of it. -/
  | flush {link : Link} {after : Option Link} {ending : Script.WriteEnd} {far : Script}
      {events : List Event} {limit now later : Nat}
      (told : link.far.flush limit now = (ending, far, later))
      (further : Carries (some { link with far := far }) events after) :
      Carries (some link) (.flushing link.id :: events) after
  /-- It has passed that on. -/
  | flushed {link : Link} {after : Option Link} {events : List Event}
      (further : Carries (some link) events after) :
      Carries (some link) (.flushed link.id :: events) after
  /-- The link delivers octets. -/
  | read {link : Link} {after : Option Link} {count : Nat} {octets : Octets} {far : Script}
      {events : List Event} (given : link.far.take count = (.octets octets, far))
      (further : Carries (some { link with far := far }) events after) :
      Carries (some link) (.delivered link.id octets :: events) after
  /-- The link is let go. -/
  | lose {link : Link} {after : Option Link} {events : List Event}
      (further : Carries none events after) : Carries (some link) events after

namespace Carries

theorem trans {held middle after : Option Link} {events more : List Event}
    (earlier : Carries held events middle) (later : Carries middle more after) :
    Carries held (events ++ more) after := by
  induction earlier with
  | refl => exact later
  | quiet quiet _ ih => exact .quiet quiet (ih later)
  | write taken _ ih =>
      rw [List.append_assoc]
      exact .write taken (ih later)
  | flush told _ ih => exact .flush told (ih later)
  | flushed _ ih => exact .flushed (ih later)
  | read given _ ih => exact .read given (ih later)
  | lose _ ih => exact .lose (ih later)

theorem of_quiet {events : List Event} (quiet : ∀ event ∈ events, event.quiet = true)
    (held : Option Link) : Carries held events held := by
  induction events with
  | nil => exact .refl held
  | cons event events ih =>
      exact .quiet (quiet event List.mem_cons_self)
        (ih fun other member => quiet other (List.mem_cons_of_mem event member))

/-- A link may be let go in quiet events. -/
theorem lost {events : List Event} (quiet : ∀ event ∈ events, event.quiet = true)
    (held : Option Link) : Carries held events none := by
  cases held with
  | none => exact of_quiet quiet none
  | some => exact .lose (of_quiet quiet none)

/-- The link that is held at last is the one that was held at first. -/
theorem exists_id_eq {held after : Option Link} {events : List Event} {link : Link}
    (carries : Carries held events after) (still : after = some link) :
    ∃ earlier, held = some earlier ∧ earlier.id = link.id := by
  induction carries with
  | refl => exact ⟨link, still, rfl⟩
  | quiet _ _ ih => exact ih still
  | write _ _ ih | flush _ _ ih | flushed _ ih | read _ _ ih =>
      obtain ⟨earlier, same, number⟩ := ih still
      cases same
      exact ⟨_, rfl, number⟩
  | lose _ ih =>
      obtain ⟨earlier, same, -⟩ := ih still
      cases same

end Carries

theorem Session.opened_iff {session : Session} :
    session.Opened ↔ Phase.established.place ≤ session.phase.place := by
  unfold Opened
  cases session.phase <;> decide

namespace Conversation

theorem Moves.opened {talk after : Conversation} {taken : List Tlv} {written : Octets}
    (moves : Moves talk taken written after) (opened : talk.session.Opened) :
    after.session.Opened :=
  Session.opened_iff.mpr (Nat.le_trans (Session.opened_iff.mp opened) moves.place_le)

/-- What a move notes on an opened session is what its link carries. -/
theorem Move.exists_carries {talk after : Conversation} {taken : List Tlv} {written : Octets}
    (move : Move talk taken written after) (opened : talk.session.Opened) :
    ∃ events, after.timeline.log = talk.timeline.log ++ events ∧
      Carries talk.session.link events after.session.link := by
  -- The moves of a handshake belong to earlier phases.
  have phases := Session.opened_iff.mp opened
  cases move with
  | load _ fresh => rw [fresh] at phases; exact absurd phases (by decide)
  | surrender handshaking => rw [handshaking] at phases; exact absurd phases (by decide)
  | secure _ handshaking => rw [handshaking] at phases; exact absurd phases (by decide)
  | idle quiet =>
      obtain ⟨events, log, quiet⟩ := quiet
      exact ⟨events, log, .of_quiet quiet _⟩
  | mark => exact ⟨[], (List.append_nil _).symm, .refl _⟩
  | take => exact ⟨[], (List.append_nil _).symm, .refl _⟩
  | write established held taken =>
      rw [held]
      have chain := Carries.write taken (.refl _)
      rw [List.append_nil] at chain
      exact ⟨_, rfl, chain⟩
  | flush established held told =>
      rw [held]
      exact ⟨[_], rfl, .flush told (.refl _)⟩
  | flushed _ established held =>
      rw [held]
      exact ⟨[_], rfl, .flushed (.refl _)⟩
  | deliver established held nothing given =>
      rw [held]
      exact ⟨[_], rfl, .read given (.refl _)⟩
  | part held =>
      rw [held]
      exact ⟨[_], rfl, .lose (.quiet rfl (.refl _))⟩
  | shut =>
      obtain ⟨events, log, quiet⟩ := talk.quiet_shut
      exact ⟨events, log, .lost quiet _⟩

/-- **On an opened session, whatever travels is what its link carries.** -/
theorem Moves.exists_carries {talk after : Conversation} {taken : List Tlv} {written : Octets}
    (moves : Moves talk taken written after) (opened : talk.session.Opened) :
    ∃ events, after.timeline.log = talk.timeline.log ++ events ∧
      Carries talk.session.link events after.session.link := by
  induction moves with
  | refl talk => exact ⟨[], (List.append_nil _).symm, .refl _⟩
  | head move _ ih =>
      obtain ⟨events, log, now⟩ := move.exists_carries opened
      obtain ⟨more, logMore, later⟩ := ih ((Moves.single move).opened opened)
      exact ⟨events ++ more, by rw [logMore, log, List.append_assoc], now.trans later⟩

/-! ## Before the handshake has come to a link -/

/-- What calls make of a session that they do not open: nothing travels, and no link and no
credentials are gained but those that are loaded. -/
structure Waits (talk : Conversation) (calls : List (Call × Nat)) (after : Conversation) :
    Prop where
  quiet : talk.timeline.Quiet after.timeline
  phase : after.session.phase ≠ .established
  link : ∀ link, after.session.link = some link → talk.session.link = some link
  credentials : ∀ credentials, after.session.handshake = some credentials →
    talk.session.handshake = some credentials ∨
      ∃ moment, (.load credentials, moment) ∈ calls

namespace Waits

theorem of_mark {talk : Conversation} (fresh : talk.session.phase ≠ .established)
    (calls : List (Call × Nat)) (unfinished : Bool) : Waits talk calls (mark unfinished talk) where
  quiet := .refl _
  phase := fresh
  link := fun _ held => held
  credentials := fun _ loaded => .inl loaded

theorem trans {talk middle after : Conversation} {calls more : List (Call × Nat)}
    (earlier : Waits talk calls middle) (later : Waits middle more after) :
    Waits talk (calls ++ more) after where
  quiet := earlier.quiet.trans later.quiet
  phase := later.phase
  link := fun link held => earlier.link link (later.link link held)
  credentials := by
    intro credentials loaded
    rcases later.credentials credentials loaded with before | ⟨moment, now⟩
    · rcases earlier.credentials credentials before with first | ⟨moment, early⟩
      · exact .inl first
      · exact .inr ⟨moment, List.mem_append_left _ early⟩
    · exact .inr ⟨moment, List.mem_append_right _ now⟩

end Waits

/-- What is noted when a session lets its link go in an orderly way. -/
def parting : Option Link → List Event
  | some link => [.shutDown link.id, .released link.id]
  | none => []

/-- Closing shuts the link down and lets it go, also when it is dropped. -/
theorem log_close (limit : Nat) (talk : Conversation) :
    (close limit talk).2.timeline.log = talk.timeline.log ++ parting talk.session.link := by
  have told : ∀ {link due deadline ending after}, talk.session.link = some link →
      (talk.timeline.note (.shutDown link.id)).wait due deadline limit = (ending, after) →
        (after.note (.released link.id)).log = talk.timeline.log ++ parting talk.session.link := by
    intro link due deadline ending after held waited
    rw [Timeline.note, Timeline.log_of_wait waited, held]
    exact List.append_assoc ..
  rcases ended : close limit talk with ⟨result, after⟩
  cases closes ended with
  | unlinked none => simp only [shut, none, Timeline.release, parting, List.append_nil]
  | dropped held waited => exact told held waited
  | done held waited =>
      simp only [shut, held, Timeline.release]
      rw [← held]
      exact told held waited

theorem quiet_of_mem_parting {link : Option Link} :
    ∀ event ∈ parting link, event.quiet = true := by
  cases link with
  | none => exact nofun
  | some link =>
      exact List.forall_mem_cons.mpr ⟨rfl, List.forall_mem_cons.mpr ⟨rfl, nofun⟩⟩

theorem quiet_close (limit : Nat) (talk : Conversation) :
    talk.timeline.Quiet (close limit talk).2.timeline :=
  ⟨_, log_close limit talk, quiet_of_mem_parting⟩

/-- Closing lets the link go, also when it is dropped. -/
theorem link_close (limit : Nat) (talk : Conversation) :
    (close limit talk).2.session.link = none := by
  rcases ended : close limit talk with ⟨result, after⟩
  cases closes ended with
  | unlinked => rfl
  | dropped => rfl
  | done => rfl

theorem handshake_close (limit : Nat) (talk : Conversation) :
    (close limit talk).2.session.handshake = none ∨
      (close limit talk).2.session.handshake = talk.session.handshake := by
  rcases ended : close limit talk with ⟨result, after⟩
  cases closes ended with
  | unlinked => exact .inl rfl
  | dropped => exact .inr rfl
  | done => exact .inl rfl

theorem waits_close {talk : Conversation} (fresh : talk.session.phase ≠ .established)
    (limit : Nat) (calls : List (Call × Nat)) : Waits talk calls (close limit talk).2 where
  quiet := quiet_close limit talk
  phase := by
    rcases phase_close limit talk with closed | same
    · rw [closed]
      exact nofun
    · rw [same]
      exact fresh
  link := fun _ held => by cases (link_close limit talk).symm.trans held
  credentials := by
    intro credentials loaded
    rcases handshake_close limit talk with gone | same
    · cases gone.symm.trans loaded
    · exact .inl (same.symm.trans loaded)

/-- **A call on a session that is not open opens it, or nothing travels.** -/
theorem perform_waits {talk after : Conversation} {call : Call} {limit : Nat} {answer : Answer}
    (fresh : talk.session.phase ≠ .established) (unopened : after.session.phase ≠ .established)
    (performed : call.perform limit talk = (answer, after)) :
    Waits talk [(call, limit)] after := by
  -- A call that the phase does not allow at most marks the session.
  have refused : ∀ expected, call.phase? = some expected → talk.session.phase ≠ expected →
      Waits talk [(call, limit)] after := by
    intro expected belongs other
    obtain ⟨unfinished, same⟩ := perform_of_phase_ne belongs other limit
    rw [performed] at same
    cases same
    exact .of_mark fresh _ unfinished
  cases call with
  | send => exact refused _ rfl fresh
  | request => exact refused _ rfl fresh
  | receive => exact refused _ rfl fresh
  | pass span =>
      cases performed
      exact ⟨.of_log rfl, fresh, fun _ held => held, fun _ loaded => .inl loaded⟩
  | close =>
      have same : (close limit talk).2 = after := congrArg Prod.snd performed
      rw [← same]
      exact waits_close fresh limit _
  | load credentials =>
      by_cases phase : talk.session.phase = .uninitialized
      case neg => exact refused _ rfl phase
      case pos =>
        simp only [Call.perform, Session.load, Session.expect_of_eq phase] at performed
        cases performed
        refine ⟨.refl _, unopened, fun _ held => held, fun other loaded => .inr ⟨limit, ?_⟩⟩
        cases loaded
        exact List.mem_singleton.mpr rfl
  | handshake name =>
      simp only [Call.perform] at performed
      cases ended : handshake name limit talk with
      | mk result other =>
        rw [ended] at performed
        cases performed
        cases handshake_ends ended with
        | refused => exact .of_mark fresh _ talk.session.unfinished
        | secured => exact absurd rfl unopened
        | failed _ quiet closed unlinked unloaded =>
            refine ⟨quiet, unopened, fun link held => ?_, fun credentials loaded => ?_⟩
            · cases unlinked.symm.trans held
            · cases unloaded.symm.trans loaded
        | dropped _ quiet =>
            refine ⟨quiet, unopened, fun link held => ?_, fun credentials loaded => ?_⟩
            · cases held
            · cases loaded

/-! ## Histories -/

theorem run_cons (call : Call) (limit : Nat) (calls : List (Call × Nat)) (talk : Conversation) :
    (run ((call, limit) :: calls) talk).2 = (run calls (call.perform limit talk).2).2 :=
  rfl

theorem run_append (calls more : List (Call × Nat)) (talk : Conversation) :
    (run (calls ++ more) talk).2 = (run more (run calls talk).2).2 := by
  induction calls generalizing talk with
  | nil => rfl
  | cons next calls ih => exact ih _

/-- What a history of calls on a session that is not open comes to. -/
inductive Course (talk : Conversation) (calls : List (Call × Nat)) (after : Conversation) :
    Prop where
  /-- It never opens the session. -/
  | waits (waits : Waits talk calls after)
  /-- One of its calls is for the handshake and opens the session. Nothing travels before,
  and behind it what the link carries that was handed back. -/
  | opens (before : List (Call × Nat)) (carried : List Event) {later : List (Call × Nat)}
      {name : String} {limit : Nat} {credentials : Handshake} {raw secured : Link}
      {negotiated : Timeline} (calls_eq : calls = before ++ (.handshake name, limit) :: later)
      (waits : Waits talk before (run before talk).2)
      (secures : Secures (run before talk).2 name limit credentials raw secured negotiated)
      (quiet : talk.timeline.Quiet negotiated)
      (log : after.timeline.log = negotiated.log ++ .secured secured.id :: carried)
      (carries : Carries (some secured) carried after.session.link)
      (opened : after.session.Opened)

theorem run_course (calls : List (Call × Nat)) {talk : Conversation}
    (fresh : talk.session.phase ≠ .established) : Course talk calls (run calls talk).2 := by
  -- The call at which the session opens, if there is one, is the first that establishes it.
  induction calls generalizing talk with
  | nil => exact .waits (.of_mark fresh [] talk.session.unfinished)
  | cons next calls ih =>
      obtain ⟨call, limit⟩ := next
      by_cases established : (call.perform limit talk).2.session.phase = .established
      case pos =>
        obtain ⟨name, credentials, raw, secured, negotiated, rfl, -, secures, quiet, same⟩ :=
          exists_secures_of_established (Prod.eta _).symm established fresh
        -- Behind the handshake the session is opened, and stays so.
        have opened : ((Call.handshake name).perform limit talk).2.session.Opened :=
          .inl established
        obtain ⟨_, _, moves, -⟩ := run_moves calls ((Call.handshake name).perform limit talk).2
        obtain ⟨carried, log, carries⟩ := moves.exists_carries opened
        refine .opens [] carried rfl (.of_mark fresh [] talk.session.unfinished) secures quiet
          ?_ ?_ (moves.opened opened)
        · rw [run_cons, log, same]
          exact List.append_assoc ..
        · rw [same] at carries
          rw [run_cons, same]
          exact carries
      case neg =>
        have waits := perform_waits fresh established (Prod.eta _).symm
        cases ih established with
        | waits further => exact .waits (waits.trans further)
        | opens before carried calls_eq further secures quiet log carries opened =>
            subst calls_eq
            exact .opens ((call, limit) :: before) carried rfl (waits.trans further) secures
              (waits.quiet.trans quiet) log carries opened

/-- A session that holds no link has none to open, and nothing travels. -/
theorem quiet_of_unlinked (calls : List (Call × Nat)) {talk : Conversation}
    (fresh : talk.session.phase ≠ .established) (unlinked : talk.session.link = none) :
    talk.timeline.Quiet (run calls talk).2.timeline := by
  cases run_course calls fresh with
  | waits waits => exact waits.quiet
  | opens _ _ _ waits secures => cases unlinked.symm.trans (waits.link _ secures.held)

/-- **A handshake that is not carried through leaves nothing to travel on**, whatever is
called before and afterwards. -/
theorem quiet_of_handshake_ne_done {talk : Conversation}
    (fresh : talk.session.phase ≠ .established) {before later : List (Call × Nat)}
    {name : String} {limit : Nat} (phase : (run before talk).2.session.phase = .handshaking)
    (undone : ((Call.handshake name).perform limit (run before talk).2).1 ≠ .done) :
    talk.timeline.Quiet (run (before ++ (.handshake name, limit) :: later) talk).2.timeline := by
  have early : talk.timeline.Quiet (run before talk).2.timeline := by
    cases run_course before fresh with
    | waits waits => exact waits.quiet
    | opens _ _ _ _ _ _ _ _ opened => rcases opened with is | is <;> cases phase.symm.trans is
  rw [run_append, run_cons]
  generalize (run before talk).2 = middle at phase undone early
  refine early.trans ?_
  simp only [Call.perform] at undone ⊢
  cases ended : handshake name limit middle with
  | mk result other =>
    rw [ended] at undone
    cases handshake_ends ended with
    | refused elsewhere => exact absurd phase elsewhere
    | secured => exact absurd rfl undone
    | failed _ quiet closed unlinked =>
        exact quiet.trans (quiet_of_unlinked later (by rw [closed]; decide) unlinked)
    | dropped handshaking quiet =>
        exact quiet.trans (quiet_of_unlinked later (by rw [handshaking]; decide) rfl)

/-- What travels in a history on a new session over a raw link: nothing, or what the link
carries that a handshake handed back, which was begun with credentials that had been
loaded. -/
inductive Gated (link : Link) (start : Conversation) (calls : List (Call × Nat)) : Prop where
  | shut (quiet : start.timeline.Quiet (run calls start).2.timeline)
      (unopened : (run calls start).2.session.phase ≠ .established)
  | opened (before : List (Call × Nat)) (carried : List Event)
      {later : List (Call × Nat)} {name : String} {limit moment : Nat}
      {credentials : Handshake} {secured : Link} {negotiated : Timeline}
      (calls_eq : calls = before ++ (.handshake name, limit) :: later)
      (loaded : (.load credentials, moment) ∈ before)
      (secures : Secures (run before start).2 name limit credentials link secured negotiated)
      (quiet : start.timeline.Quiet negotiated)
      (log : (run calls start).2.timeline.log =
        negotiated.log ++ .secured secured.id :: carried)
      (carries : Carries (some secured) carried (run calls start).2.session.link)

/-- **Nothing travels before the handshake**, whatever calls are made on a new session and
wherever they are dropped. -/
theorem gated_run (link : Link) (limits : Limits) (timeline : Timeline)
    (calls : List (Call × Nat)) :
    Gated link ⟨Session.onLink link limits, timeline⟩ calls := by
  have fresh : (⟨Session.onLink link limits, timeline⟩ : Conversation).session.phase ≠
      .established := nofun
  cases run_course calls fresh with
  | waits waits => exact .shut waits.quiet waits.phase
  | opens before carried calls_eq waits secures quiet log carries =>
      cases waits.link _ secures.held
      rcases waits.credentials _ secures.loaded with initial | ⟨moment, loaded⟩
      · cases initial
      · exact .opened before carried calls_eq loaded secures quiet log carries

end Conversation

end Commissioner
