import Commissioner.Proofs.Session.Gate

/-!
# Which links are alive

A link is alive from the moment on at which it opens, or at which a handshake hands it over in
place of another one, until it is let go (`alive`). In an orderly log one link at most is alive
at any time, and none is when another one is about to open (`Tenure`).

A session that is in use holds the link that is alive. Whatever it does keeps this, and it ends
up established on its link or closed without one (`Conversation.Tended`), unless it is dropped
while it closes.
-/

set_option autoImplicit false

namespace Commissioner

/-! ## Links on a log -/

/-- The links that are alive behind an event. A handshake hands back the link that it was
given, or another one. -/
def Event.outlive (links : List Nat) : Event → List Nat
  | .opened link => link :: links
  | .secured link => if link ∈ links then links else link :: links
  | .released link => links.erase link
  | _ => links

/-- The links that are alive at the end of a log. -/
def alive (log : List Event) : List Nat :=
  log.foldl Event.outlive []

theorem alive_concat (log : List Event) (event : Event) :
    alive (log ++ [event]) = event.outlive (alive log) := by
  rw [alive, List.foldl_append]
  rfl

/-- An event by which no link is gained, asked for or let go. -/
def Event.calm : Event → Bool
  | .opening _ | .opened _ | .secured _ | .released _ => false
  | _ => true

/-- A log on which no more than one link is ever alive, and none when one is asked for, with
the link that is alive at its end. -/
inductive Tenure : List Event → Option Nat → Prop where
  | nil : Tenure [] none
  | calm {log : List Event} {held : Option Nat} {event : Event} (earlier : Tenure log held)
      (calm : event.calm = true) : Tenure (log ++ [event]) held
  | opening {log : List Event} (earlier : Tenure log none) (address : String) :
      Tenure (log ++ [.opening address]) none
  | opened {log : List Event} (earlier : Tenure log none) (link : Nat) :
      Tenure (log ++ [.opened link]) (some link)
  /-- A handshake hands back the link that it was given. -/
  | returned {log : List Event} {link : Nat} (earlier : Tenure log (some link)) :
      Tenure (log ++ [.secured link]) (some link)
  /-- A handshake hands over another link, having let go of the first. -/
  | replaced {log : List Event} (earlier : Tenure log none) (link : Nat) :
      Tenure (log ++ [.secured link]) (some link)
  | released {log : List Event} {link : Nat} (earlier : Tenure log (some link)) :
      Tenure (log ++ [.released link]) none

namespace Tenure

variable {log front events : List Event} {held : Option Nat} {link : Nat}

theorem append_calm (tenure : Tenure log held) (calm : ∀ event ∈ events, event.calm = true) :
    Tenure (log ++ events) held := by
  induction events generalizing log with
  | nil =>
      rw [List.append_nil]
      exact tenure
  | cons event events ih =>
      rw [List.append_cons]
      exact ih (tenure.calm (calm event List.mem_cons_self))
        fun other member => calm other (List.mem_cons_of_mem event member)

theorem adds {before after : Timeline} (tenure : Tenure before.log held)
    (adds : before.Adds Event.calm after) : Tenure after.log held := by
  obtain ⟨events, log, calm⟩ := adds
  rw [log]
  exact tenure.append_calm calm

/-- What happens when a session parts with its link in an orderly way. -/
theorem parting {link : Option Link} (tenure : Tenure log (link.map Link.id)) :
    Tenure (log ++ Conversation.parting link) none := by
  cases link with
  | none =>
      rw [Conversation.parting, List.append_nil]
      exact tenure
  | some link =>
      have told : Tenure (log ++ [.shutDown link.id]) (some link.id) := tenure.calm rfl
      have gone := told.released
      rw [List.append_assoc] at gone
      exact gone

theorem release {timeline : Timeline} {link : Option Link}
    (tenure : Tenure timeline.log (link.map Link.id)) :
    Tenure (timeline.release link).log none := by
  cases link with
  | none => exact tenure
  | some link => exact tenure.released

/-- The link that is alive is the one that the log says. -/
theorem alive_eq (tenure : Tenure log held) : alive log = held.toList := by
  induction tenure with
  | nil => rfl
  | @calm _ _ event _ calm ih =>
      rw [alive_concat, ih]
      cases event with
      | opening | opened | secured | released => cases calm
      | _ => rfl
  | opening _ _ ih | opened _ _ ih =>
      rw [alive_concat, ih]
      rfl
  | returned _ ih | replaced _ _ ih | released _ ih =>
      rw [alive_concat, ih]
      simp [Event.outlive]

/-- What was orderly up to an event, which asks for a link only when none is alive. -/
theorem exists_earlier {event : Event} (tenure : Tenure (log ++ [event]) held) :
    ∃ before, Tenure log before ∧ ∀ address, event = .opening address → before = none := by
  generalize joined : log ++ [event] = whole at tenure
  cases tenure with
  | nil => cases List.append_ne_nil_of_right_ne_nil log (List.cons_ne_nil _ []) joined
  | calm earlier calm =>
      obtain ⟨rfl, ends⟩ := List.append_inj' joined rfl
      cases ends
      refine ⟨_, earlier, ?_⟩
      rintro _ rfl
      cases calm
  | returned earlier | released earlier =>
      obtain ⟨rfl, ends⟩ := List.append_inj' joined rfl
      cases ends
      exact ⟨_, earlier, nofun⟩
  -- Behind the others no link was alive before.
  | opening earlier | opened earlier | replaced earlier =>
      obtain ⟨rfl, -⟩ := List.append_inj' joined rfl
      exact ⟨none, earlier, fun _ _ => rfl⟩

/-- The front of an orderly log is orderly. -/
theorem exists_of_isPrefix (tenure : Tenure log held) (shorter : front <+: log) :
    ∃ before, Tenure front before := by
  obtain ⟨rest, rfl⟩ := shorter
  induction rest generalizing front with
  | nil =>
      rw [List.append_nil] at tenure
      exact ⟨held, tenure⟩
  | cons event rest ih =>
      rw [List.append_cons] at tenure
      obtain ⟨_, further⟩ := ih tenure
      obtain ⟨before, earlier, -⟩ := further.exists_earlier
      exact ⟨before, earlier⟩

/-- No link is alive when another one is asked for. -/
theorem of_opening {before after : List Event} {address : String}
    (tenure : Tenure log held) (split : log = before ++ .opening address :: after) :
    Tenure before none := by
  have asked : before ++ [.opening address] <+: log := ⟨after, by rw [split, List.append_assoc]; rfl⟩
  obtain ⟨_, front⟩ := tenure.exists_of_isPrefix asked
  obtain ⟨_, earlier, unheld⟩ := front.exists_earlier
  exact unheld address rfl ▸ earlier

end Tenure

/-! ## Handshakes -/

namespace Handshake

/-- What becomes of the link that a negotiation was given: it is handed back, or let go. -/
def Returns : Negotiated × Timeline → Prop
  | (.secured link, timeline) => Tenure (timeline.log ++ [.secured link.id]) (some link.id)
  | (_, timeline) => Tenure timeline.log none

theorem tenure_released {timeline after : Timeline} {due deadline : Option Nat} {limit link : Nat}
    {ending : Timeline.Waited} (tenure : Tenure timeline.log (some link))
    (waited : timeline.wait due deadline limit = (ending, after)) :
    Tenure (after.note (.released link)).log none := by
  have still : Tenure after.log (some link) := tenure.adds (.of_wait waited)
  exact still.released

/-- Time passes and something is waited for, and nothing becomes of the link. -/
theorem tenure_behind {timeline after : Timeline} {due deadline : Option Nat}
    {moment limit link : Nat} {ending : Timeline.Waited}
    (tenure : Tenure timeline.log (some link))
    (waited : (timeline.advance moment).wait due deadline limit = (ending, after)) :
    Tenure after.log (some link) := by
  have later : Tenure (timeline.advance moment).log (some link) := tenure
  exact later.adds (.of_wait waited)

theorem returns_settle (verdict : Verdict) (name : String) {link : Link} {timeline : Timeline}
    (tenure : Tenure timeline.log (some link.id)) :
    Returns (settle verdict name link timeline) := by
  cases verdict with
  | accept => exact tenure.returned
  | refuse _ => exact tenure.released
  | refuseName => exact tenure.released
  | replace other => exact tenure.released.replaced other.id

theorem returns_followTls (deadline limit : Nat) (exchange : Tls.Exchange) {link : Link}
    {timeline : Timeline} (tenure : Tenure timeline.log (some link.id)) :
    Returns (followTls link deadline limit exchange timeline) := by
  fun_induction followTls link deadline limit exchange timeline
  case case1 | case4 => exact tenure.released
  case case2 | case3 => exact tenure_released tenure ‹_›
  case case10 ih => exact ih (tenure_behind tenure ‹_›)
  all_goals exact (tenure_behind tenure ‹_›).released

/-- **A negotiation hands a link back, or lets go of the one that it was given.** -/
theorem returns_negotiate (handshake : Handshake) (name : String) (deadline limit : Nat)
    {link : Link} {timeline : Timeline} (tenure : Tenure timeline.log (some link.id)) :
    Returns (handshake.negotiate name link deadline limit timeline) := by
  cases handshake with
  | tls authorities =>
      simp only [negotiate, carryOutTls]
      split
      next => exact returns_followTls deadline limit _ tenure
      next => exact tenure.released
  | settled delay verdict =>
      have begun : Tenure (timeline.note (.handshake name)).log (some link.id) := tenure.calm rfl
      simp only [negotiate]
      split
      next waited => exact returns_settle verdict name (begun.adds (.of_wait waited))
      next waited => exact tenure_released begun waited
      next waited => exact tenure_released begun waited

end Handshake

/-! ## Sessions that are in use -/

namespace Session

/-- The number of the link that a session holds. -/
def held (session : Session) : Option Nat :=
  session.link.map Link.id

theorem held_eq_none {session : Session} : session.held = none ↔ session.link = none :=
  Option.map_eq_none_iff

/-- A session that has been established holds its link until it is closed. -/
def Intact (session : Session) : Prop :=
  (session.phase = .established ∧ session.link ≠ none) ∨
    (session.phase = .closed ∧ session.link = none)

theorem Intact.of_held {session other : Session} (intact : session.Intact)
    (phase : other.phase = session.phase) (held : other.held = session.held) : other.Intact := by
  have same : other.link = none ↔ session.link = none := by
    rw [← Session.held_eq_none, ← Session.held_eq_none, held]
  unfold Intact
  rw [phase, ne_eq, same]
  exact intact

end Session

namespace Conversation

/-- The link that is alive is the one that the session holds. -/
def Tenured (talk : Conversation) : Prop :=
  Tenure talk.timeline.log talk.session.held

/-- Moreover the session is in use, or closed for good. -/
structure Tended (talk : Conversation) : Prop where
  intact : talk.session.Intact
  tenure : talk.Tenured

/-- What an act leads to on a session that is in use. Where it is dropped the session may have
lost its link and not be closed yet. -/
def Tends {α : Type} : Option α × Conversation → Prop
  | (some _, after) => after.Tended
  | (none, after) => after.Tenured

variable {talk after : Conversation}

theorem Tends.of_tended {α : Type} {ended : Option α × Conversation} (tended : ended.2.Tended) :
    Tends ended := by
  obtain ⟨_ | _, _⟩ := ended
  case none => exact tended.tenure
  case some => exact tended

theorem Tended.adds (tended : talk.Tended) (phase : after.session.phase = talk.session.phase)
    (held : after.session.held = talk.session.held)
    (adds : talk.timeline.Adds Event.calm after.timeline) : after.Tended where
  intact := tended.intact.of_held phase held
  tenure := by
    unfold Tenured
    rw [held]
    exact tended.tenure.adds adds

/-- What is left in the buffer does not matter. -/
theorem Tended.left (tended : talk.Tended) (rest : Octets) :
    Tended { talk with session := { talk.session with received := rest } } :=
  tended.adds rfl rfl (.of_log rfl)

/-- A session that is shut lets its link go. -/
theorem Tenured.shut (tenured : talk.Tenured) : talk.shut.Tended where
  intact := .inr ⟨rfl, rfl⟩
  tenure := tenured.release

theorem Tenured.tends_close (tenured : talk.Tenured) (limit : Nat) :
    Tends (close limit talk) := by
  have gone : (close limit talk).2.Tenured := by
    unfold Tenured Session.held
    rw [log_close, link_close]
    exact tenured.parting
  have unlinked := link_close limit talk
  rcases ended : close limit talk with ⟨_ | _, after⟩
  case none =>
    rw [ended] at gone
    exact gone
  case some =>
    rw [ended] at gone unlinked
    exact ⟨.inr ⟨phase_of_close ended, unlinked⟩, gone⟩

/-! ## What a session does to its link -/

theorem tended_flush {link : Link} {limit : Nat} {result : Option (Except SessionError Unit)}
    (tended : talk.Tended) (held : talk.session.link = some link)
    (passed : flush link limit talk = (result, after)) : after.Tended := by
  have told : ∀ {ending far now}, link.far.flush limit talk.timeline.now = (ending, far, now) →
      (talk.behindFlush link far now).Tended := by
    intro ending far now _
    have noted : talk.timeline.Adds Event.calm (talk.timeline.note (.flushing link.id)) := .note rfl
    refine tended.adds rfl ?_ (noted.trans (.of_log rfl))
    rw [Session.held, Session.held, held]
    rfl
  cases flushes passed with
  | done ended => exact (told ended).adds rfl rfl (.note rfl)
  | failed ended => exact (told ended).tenure.shut
  | stalled ended => exact (told ended).adds rfl rfl (.of_log rfl)

theorem tended_send (tended : talk.Tended) (record : Tlv) (limit : Nat) :
    (send record limit talk).2.Tended := by
  have wrote : ∀ {link wire pieces ending acceptances now},
      Writes talk record limit link wire pieces ending acceptances now →
        (talk.behindWrites link pieces acceptances now).Tended := by
    intro link wire pieces ending acceptances now writes
    refine tended.adds rfl ?_ (.noteWrites fun _ => rfl)
    rw [Session.held, Session.held, writes.held]
    rfl
  rcases ended : send record limit talk with ⟨result, after⟩
  cases sends ended with
  | refused => exact tended
  | unwritable => exact tended
  | unlinked => exact tended.tenure.shut
  | stalled writes => exact (wrote writes).adds rfl rfl (.of_log rfl)
  | failed writes => exact (wrote writes).tenure.shut
  | passing writes passed => exact tended_flush (wrote writes) rfl passed

theorem tended_read {size limit : Nat} {deadline : Option Nat}
    {result : Option (Except SessionError Reading)} (tended : talk.Tended)
    (ended : read size deadline limit talk = (result, after)) : after.Tended := by
  have passed : ∀ {due ending timeline},
      talk.timeline.wait due deadline limit = (ending, timeline) →
        Tended { talk with timeline := timeline } :=
    fun waited => tended.adds rfl rfl (.of_wait waited)
  cases fetches ended with
  | unlinked => exact tended
  | dropped _ waited => exact passed waited
  | expired _ waited => exact passed waited
  | finished _ waited => exact (passed waited).tenure.shut
  | failed _ waited => exact (passed waited).tenure.shut
  | more held waited =>
      refine (passed waited).adds rfl ?_ (.note rfl)
      rw [Session.held, Session.held, held]
      rfl

theorem tended_drain {result : Except SessionError (List Tlv)} (tended : talk.Tended)
    (drained : drain talk = (result, after)) : after.Tended := by
  cases drains drained with
  | all => exact tended.left _
  | refused => exact (tended.left _).tenure.shut

theorem tends_awaitAnswer (tended : talk.Tended) (deadline : Option Nat) (limit : Nat) :
    Tends (awaitAnswer deadline limit talk) := by
  fun_induction awaitAnswer deadline limit talk with
  | case1 _ _ rest => exact tended.left rest
  | case2 _ _ rest => exact (tended.left rest).tenure.shut
  | case3 _ _ _ ended => exact (tended_read tended ended).tenure
  | case4 _ _ _ _ ended => exact tended_read tended ended
  | case5 _ _ _ ended => exact tended_read tended ended
  | case6 _ _ _ ended ih => exact ih (tended_read tended ended)
  -- Closing behind the deadline lets go of the link first, and may be dropped before it is done.
  | case7 _ _ _ ended _ closed | case8 _ _ _ ended _ closed =>
      have closing := (tended_read tended ended).tenure.tends_close limit
      rw [closed] at closing
      exact closing

theorem tended_awaitRecords (tended : talk.Tended) (size deadline limit : Nat) :
    (awaitRecords size deadline limit talk).2.Tended := by
  fun_induction awaitRecords size deadline limit talk with
  | case1 _ _ ended | case2 _ _ _ ended | case3 _ _ ended | case4 _ _ ended =>
      exact tended_read tended ended
  | case5 _ _ ended _ _ drained | case6 _ _ ended _ _ _ drained =>
      exact tended_drain (tended_read tended ended) drained
  | case7 _ _ ended _ _ ih => exact ih (tended_read tended ended)

/-! ## Requests and batches -/

theorem tended_mark (tended : talk.Tended) (unfinished : Bool) :
    (mark unfinished talk).Tended :=
  tended.adds rfl rfl (.of_log rfl)

theorem tends_marked {α : Type} {act : Act Conversation α} {limit : Nat}
    (tends : Tends (act limit (mark true talk))) : Tends (marked act limit talk) := by
  rw [marked_apply]
  rcases ended : act limit (mark true talk) with ⟨_ | _, after⟩
  case none =>
    rw [ended] at tends
    exact tends
  case some =>
    rw [ended] at tends
    exact tended_mark tends false

/-- **A request keeps hold of its link until the session is closed**, unless it is dropped while
the session closes. -/
theorem tends_request (tended : talk.Tended) (record : Tlv) (limit : Nat) :
    Tends (request record limit talk) := by
  unfold request
  refine tends_marked ?_
  have sending := tended_send (tended_mark tended true) record limit
  rw [Act.bind_apply]
  rcases sent : send record limit (mark true talk) with
    ⟨_ | _ | _, middle⟩
  case none =>
    rw [sent] at sending
    exact sending.tenure
  case some.error =>
    rw [sent] at sending
    exact sending
  case some.ok =>
    rw [sent] at sending
    exact tends_awaitAnswer sending _ limit

theorem tends_receive (tended : talk.Tended) (size timeout limit : Nat) :
    Tends (receive size timeout limit talk) := by
  unfold receive
  refine tends_marked (.of_tended ?_)
  have begun := tended_mark tended true
  split
  next => exact begun
  next =>
    split
    next drained => exact tended_drain begun drained
    next drained => exact tended_drain begun drained
    next => exact tended_awaitRecords begun size _ limit

end Conversation

end Commissioner
