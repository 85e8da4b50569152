import Commissioner.Proofs.Client.Connect
import Commissioner.Proofs.Client.Turns
import Commissioner.Proofs.Session.Tenancy
import Commissioner.Proofs.Session.Unfinished

/-!
# Who holds the link

The link that is alive is held by the current session of the client. Only a scan for devices
changes hands: it lets the session before go, and holds the link that it opens until a session on
it becomes current, or lets it go in turn (`Client.Vacant`).

A command that comes to an end leaves a session that is in use, or closed for good
(`Client.Orderly`). One that is dropped may leave a session that is neither, but then its request
is marked as unfinished (`Client.Halted`).
-/

set_option autoImplicit false

namespace Commissioner

theorem Event.calm_of_shown {event : Event} (shown : event.shown = true) : event.calm = true := by
  cases event with
  | printed | prompted => rfl
  | _ => cases shown

/-- A session on which the next request can be made. -/
def Session.Ready (session : Session) : Prop :=
  session.phase = .established ∧ session.link ≠ none ∧ session.unfinished = false

instance : DecidablePred Session.Ready := fun session =>
  inferInstanceAs (Decidable (_ ∧ session.link ≠ none ∧ _))

namespace Client

/-- The number of the link that the current session holds. -/
def held (client : Client Action) : Option Nat :=
  client.link.map Link.id

theorem held_of_none {client : Client Action} (without : client.session = none) :
    client.held = none := by
  rw [held, link, without]
  rfl

theorem held_of_some {client : Client Action} {session : Session}
    (current : client.session = some session) : client.held = session.held := by
  rw [held, link, current]
  rfl

theorem held_of_session {client other : Client Action}
    (session : other.session = client.session) : other.held = client.held := by
  rw [held, link, session]
  rfl

/-- The link that is alive is the one that the current session holds. -/
def Tenured (client : Client Action) : Prop :=
  Tenure client.timeline.log client.held

theorem Tenured.adds {client after : Client Action} (tenured : client.Tenured)
    (session : after.session = client.session)
    (adds : client.timeline.Adds Event.calm after.timeline) : after.Tenured := by
  rw [Tenured, held_of_session session]
  exact Tenure.adds tenured adds

/-! ## Clients with a session in order -/

/-- The current session is in use, or closed for good. -/
structure Orderly (leaving : Bool) (client : Client Action) : Prop where
  tenure : client.Tenured
  intact : ∀ session, client.session = some session → session.Intact
  leaving : client.exitRequested = leaving

/-- Or its request is unfinished. -/
structure Halted (leaving : Bool) (client : Client Action) : Prop where
  tenure : client.Tenured
  intact : ∀ session, client.session = some session → session.unfinished = false → session.Intact
  leaving : client.exitRequested = leaving

variable {leaving : Bool} {client after : Client Action}

namespace Orderly

theorem halted (orderly : Orderly leaving client) : Halted leaving client where
  tenure := orderly.tenure
  intact session current _ := orderly.intact session current
  leaving := orderly.leaving

theorem adds (orderly : Orderly leaving client) (session : after.session = client.session)
    (same : after.exitRequested = client.exitRequested)
    (adds : client.timeline.Adds Event.calm after.timeline) : Orderly leaving after where
  tenure := orderly.tenure.adds session adds
  intact other current := orderly.intact other (session.symm.trans current)
  leaving := same.trans orderly.leaving

theorem shown (orderly : Orderly leaving client) {terminal : Terminal}
    (shows : client.timeline.Adds Event.shown terminal.timeline) :
    Orderly leaving (client.facing terminal) :=
  orderly.adds rfl rfl (shows.mono fun _ => Event.calm_of_shown)

theorem tended (orderly : Orderly leaving client) {session : Session}
    (current : client.session = some session) :
    Conversation.Tended ⟨session, client.timeline⟩ where
  intact := orderly.intact session current
  tenure := by
    have tenure := orderly.tenure
    rw [Client.Tenured, held_of_some current] at tenure
    exact tenure

theorem holding (orderly : Orderly leaving client) {talk : Conversation} (tended : talk.Tended) :
    Orderly leaving (client.holding talk) where
  tenure := by
    rw [Client.Tenured, held_of_some rfl]
    exact tended.tenure
  intact other current := by
    cases current
    exact tended.intact
  leaving := orderly.leaving

end Orderly

theorem Halted.of_marked {talk : Conversation} (same : client.exitRequested = leaving)
    (tenured : talk.Tenured) (unfinished : talk.session.unfinished = true) :
    Halted leaving (client.holding talk) where
  tenure := by
    rw [Client.Tenured, held_of_some rfl]
    exact tenured
  intact other current finished := by
    cases current
    cases unfinished.symm.trans finished
  leaving := same

end Client

namespace Work

variable {leaving : Bool}

/-! ## Commands on the current session -/

/-- An act that is marked while it lasts leaves the session in order, or marked. -/
theorem leads_tended {α : Type} {act : Act Conversation (Except SessionError α)}
    (tends : ∀ limit talk, talk.Tended → Conversation.Tends (act limit talk))
    (marks : ∀ limit talk, (act limit talk).2.session.unfinished = (act limit talk).1.isNone) :
    Act.Leads (Client.Orderly leaving) (Client.onCurrent act) (fun _ => Client.Orderly leaving)
      (Client.Halted leaving) := by
  refine .onCurrent (fun client session orderly current _ => ?_) fun _ orderly => orderly
  rintro limit talk rfl
  have ends := tends limit _ (orderly.tended current)
  have mark := marks limit ⟨session, client.timeline⟩
  rcases ended : act limit ⟨session, client.timeline⟩ with ⟨_ | result, after⟩
  case none =>
    rw [ended] at ends mark
    exact .of_marked orderly.leaving ends mark
  case some =>
    rw [ended] at ends
    exact orderly.holding ends

theorem stable_orderly : Stable (Client.Orderly leaving) (Client.Halted leaving) where
  print _ _ orderly := orderly.adds rfl rfl (.note rfl)
  store _ _ orderly := orderly.adds rfl rfl (.of_log rfl)
  ask prompt retry decisive :=
    (Act.Leads.atTerminal_of_shown (.ask prompt retry decisive)
      fun _ _ orderly shows => Client.Orderly.shown orderly shows).mono
        (fun _ orderly => orderly) (fun _ _ orderly => orderly) fun _ orderly => orderly.halted
  request sent :=
    leads_tended (fun limit _ tended => Conversation.tends_request tended sent limit)
      (Conversation.unfinished_request sent)
  receive size timeout :=
    leads_tended (fun limit _ tended => Conversation.tends_receive tended size timeout limit)
      (Conversation.unfinished_receive size timeout)

/-- The request for the state of the station is written without a mark, and leaves the session
in order all the same. -/
theorem wifiStatus_orderly :
    Leads (Client.Orderly leaving) wifiStatus (fun _ => Client.Orderly leaving)
      (Client.Orderly leaving) (Client.Halted leaving) := by
  have sends : Act.Leads (Client.Orderly leaving)
      (Client.onCurrent (Conversation.send (application "wifi_status")))
      (fun _ => Client.Orderly leaving) (Client.Orderly leaving) := by
    refine .onCurrent (fun client session orderly current _ => .of_snd ?_)
      fun _ orderly => orderly
    rintro limit talk rfl
    exact orderly.holding (Conversation.tended_send (orderly.tended current) _ limit)
  refine stable_orderly.leads_wifiStatus (fun line => stable_orderly.print line)
    (fun _ orderly => orderly) (fun _ orderly => orderly) (Act.Leads.either ?_)
  exact sends.mono (fun _ orderly => orderly) (fun _ _ orderly => orderly)
    fun _ orderly => orderly.halted

end Work

namespace Client

/-! ## Clients without a session -/

/-- The client holds no session. The link that is alive, if there is one, belongs to a session
that is not current yet. -/
structure Vacant (leaving : Bool) (held : Option Nat) (client : Client Action) : Prop where
  session : client.session = none
  tenure : Tenure client.timeline.log held
  leaving : client.exitRequested = leaving

variable {leaving : Bool} {held : Option Nat} {before client after : Client Action}

theorem Parts.vacant (parts : Parts before after) (tenured : before.Tenured)
    (same : before.exitRequested = leaving) : Vacant leaving none after where
  session := parts.session
  tenure := by
    rw [parts.log]
    exact Tenure.parting tenured
  leaving := parts.leaving.trans same

namespace Vacant

theorem orderly (vacant : Vacant leaving none client) : Orderly leaving client where
  tenure := by
    rw [Tenured, held_of_none vacant.session]
    exact vacant.tenure
  intact _ current := by cases vacant.session.symm.trans current
  leaving := vacant.leaving

theorem adds (vacant : Vacant leaving held client) (session : after.session = client.session)
    (same : after.exitRequested = client.exitRequested)
    (adds : client.timeline.Adds Event.calm after.timeline) : Vacant leaving held after where
  session := session.trans vacant.session
  tenure := vacant.tenure.adds adds
  leaving := same.trans vacant.leaving

theorem leads_await {β : Type} (attempt : Attempt β) :
    Act.Keeps (Vacant leaving held) (await attempt) :=
  keeps_await (fun _ _ vacant same => vacant.adds rfl rfl (.of_log same)) attempt

theorem leads_search : Act.Keeps (Vacant leaving held) search :=
  .bind (.exchange fun _ vacant => ⟨vacant.session, vacant.tenure.calm rfl, vacant.leaving⟩)
    fun _ => leads_await _

theorem leads_print (line : String) {failed dropped : Client Action → Prop} :
    Work.Leads (Vacant leaving held) (Work.print line) (fun _ => Vacant leaving held) failed
      dropped :=
  .print fun _ vacant => vacant.adds rfl rfl (.note rfl)

/-- A link that opens is alive. -/
theorem leads_openLink (peer : Peer) :
    Act.Leads (Vacant leaving none) (openLink peer)
      (Act.either (fun link => Vacant leaving (some link.id)) (Vacant leaving none))
      (Vacant leaving none) := by
  have asks : ∀ client : Client Action, Vacant leaving none client →
      Tenure (client.timeline.log ++ [.opening peer.address]) none :=
    fun _ vacant => vacant.tenure.opening peer.address
  refine .bind (.exchange fun client vacant => ⟨vacant.session, asks client vacant,
    vacant.leaving⟩) fun attempt => .bind (leads_await attempt) fun result => ?_
  cases result with
  | error => exact .pure fun _ vacant => vacant
  | ok far =>
      exact .exchange fun client vacant =>
        ⟨vacant.session, vacant.tenure.opened (client.opened + 1), vacant.leaving⟩

theorem leads_takeCredentials {dropped : Client Action → Prop} :
    Act.Leads (Vacant leaving held) takeCredentials (fun _ => Vacant leaving held) dropped :=
  .exchange fun _ vacant => vacant.adds rfl rfl (.of_log rfl)

/-- A session that does not become current lets go of its link. -/
theorem leads_abandon {α : Type} {error : SessionError} {goal : α → Client Action → Prop}
    {dropped : Client Action → Prop} {session : Session} (owner : session.held = held) :
    Work.Leads (Vacant leaving held) (do Work.abandon session; throw (.session error) : Work α)
      goal (Vacant leaving none) dropped := by
  subst owner
  refine .bind (.always (.change fun client vacant => ?_)) fun _ => .throw fun _ vacant => vacant
  exact ⟨vacant.session, vacant.tenure.release, vacant.leaving⟩

/-- What the handshake of a session comes to that is not current yet. It holds the link that is
alive, and it is ready for requests if the handshake succeeded. -/
def Negotiated (leaving : Bool) (result : Except SessionError Unit × Session)
    (client : Client Action) : Prop :=
  Vacant leaving result.2.held client ∧ (result.1 = .ok () → result.2.Ready)

theorem leads_handshake (name : String) (link : Link) (limits : Limits)
    (credentials : Handshake) :
    Act.Leads (Vacant leaving (some link.id))
      (onSession (ready link limits credentials) (Conversation.handshake name))
      (Negotiated leaving) (Vacant leaving none) := by
  intro limit client vacant
  have returns := credentials.returns_negotiate name
    (client.timeline.now + limits.handshakeTimeout) limit vacant.tenure
  simp only [onSession, Conversation.handshake, ready, Session.onLink]
  rcases ended : credentials.negotiate name link
    (client.timeline.now + limits.handshakeTimeout) limit client.timeline with ⟨_ | _, timeline⟩
  case secured secured =>
    rw [ended] at returns
    exact ⟨⟨vacant.session, returns, vacant.leaving⟩, fun _ => ⟨rfl, nofun, rfl⟩⟩
  -- In all other ways the link is gone, and the session has none to let go.
  all_goals
    rw [ended] at returns
  case dropped => exact ⟨vacant.session, returns, vacant.leaving⟩
  all_goals
    exact ⟨⟨vacant.session, returns, vacant.leaving⟩, nofun⟩

end Vacant

/-- A session that becomes current is the only one. -/
theorem Vacant.leads_install {session : Session} {failed dropped : Client Action → Prop} :
    Work.Leads (Negotiated leaving (.ok (), session)) (Work.always (install session))
      (fun _ client => Orderly leaving client ∧ client.session = some session ∧ session.Ready)
      failed dropped := by
  refine .always fun limit client negotiated => ?_
  obtain ⟨vacant, ready⟩ := negotiated
  obtain ⟨established, holds, finished⟩ := ready rfl
  rw [install_of_none session limit vacant.session]
  refine ⟨⟨?_, fun other current => ?_, vacant.leaving⟩, rfl, established, holds, finished⟩
  · rw [Tenured, held_of_some rfl]
    exact vacant.tenure
  · cases current
    exact .inl ⟨established, holds⟩

end Client

/-! ## Asking for links -/

/-- An event by which no link is asked for. -/
def Event.unasked : Event → Bool
  | .opening _ => false
  | _ => true

theorem Event.unasked_of_quiet {event : Event} (quiet : event.quiet = true) :
    event.unasked = true := by
  cases event with
  | opening => cases quiet
  | _ => rfl

/-- What a link carries asks for none. -/
theorem Carries.unasked {held after : Option Link} {events : List Event}
    (carries : Carries held events after) : ∀ event ∈ events, event.unasked = true := by
  induction carries with
  | refl => exact nofun
  | quiet quiet _ ih => exact List.forall_mem_cons.mpr ⟨Event.unasked_of_quiet quiet, ih⟩
  | write _ _ ih =>
      refine List.forall_mem_append.mpr ⟨fun event member => ?_, ih⟩
      obtain ⟨_, -, rfl⟩ := List.mem_map.mp member
      rfl
  | flush _ _ ih | flushed _ ih | read _ _ ih => exact List.forall_mem_cons.mpr ⟨rfl, ih⟩
  | lose _ ih => exact ih

namespace Client

/-- No link was asked for since. -/
def Unasked (since : Timeline) (client : Client Action) : Prop :=
  since.Adds Event.unasked client.timeline

variable {since : Timeline}

theorem Unasked.quiet {client after : Client Action} (unasked : Unasked since client)
    (quiet : client.timeline.Quiet after.timeline) : Unasked since after :=
  unasked.trans (Timeline.Adds.mono quiet fun _ => Event.unasked_of_quiet)

theorem lasting_unasked : Lasting (Unasked since) where
  shows _ _ unasked quiet := Unasked.quiet unasked quiet
  store _ _ unasked := unasked
  moves := by
    intro client session talk taken written unasked current established moves
    obtain ⟨events, log, carries⟩ := moves.exists_carries (.inl established)
    exact unasked.trans ⟨events, log, carries.unasked⟩
  letsGo := .of_snd fun limit client unasked =>
    Unasked.quiet unasked (invalidate_parts limit client).quiet
  without _ unasked := unasked
  leave _ unasked := unasked
  expecting _ _ unasked := unasked

theorem Unasked.leads_search : Act.Keeps (Unasked since) search := by
  have awaits : ∀ attempt : Attempt (List Peer), Act.Keeps (Unasked since) (await attempt) :=
    keeps_await fun _ _ unasked same => unasked.trans (.of_log same)
  refine .bind (.exchange fun client unasked => ?_) fun attempt => awaits attempt
  exact Timeline.Adds.trans unasked (.note rfl)

/-- The client holds no session, no link is alive, and none was asked for since. -/
structure Alone (leaving : Bool) (since : Timeline) (client : Client Action) : Prop
    extends Vacant leaving none client where
  unasked : Unasked since client

end Client

namespace Work

variable {since : Timeline}

/-! ## Scanning for devices -/

/-- The part of a scan up to where the user has picked a device. -/
def pick : Work (Prompted Peer) := do
  always Client.invalidate
  let peers ← attemptWith .transport Client.search
  ask (Terminal.selectPeer peers)

/-- The rest of a scan asks for a link to the device right away. -/
theorem exists_scan_eq :
    ∃ finish : Link → Work Outcome, scan = (do
      match ← pick with
      | .cancelled => return .none
      | .value peer =>
          print ("Connecting to " ++ peer.text)
          let link ← attemptWith (fun error => .session (.transport error)) (Client.openLink peer)
          finish link) := by
  apply Exists.intro
  refine Eq.trans ?_ (bind_assoc _ _ _).symm
  refine congrArg (always Client.invalidate >>= ·) (funext fun _ => ?_)
  refine Eq.trans ?_ (bind_assoc _ _ _).symm
  refine congrArg (attemptWith .transport Client.search >>= ·) (funext fun peers => ?_)
  refine congrArg (ask (Terminal.selectPeer peers) >>= ·) (funext fun picked => ?_)
  cases picked with
  | cancelled => rfl
  | value peer => rfl

section

variable {leaving : Bool} {start : Client Action}

theorem leads_letGo (tenured : start.Tenured) (same : start.exitRequested = leaving) :
    Leads (fun client => client = start) (always Client.invalidate)
      (fun _ => Client.Alone leaving start.timeline) (Client.Alone leaving start.timeline)
      (Client.Alone leaving start.timeline) := by
  refine .always (.of_snd ?_)
  rintro limit client rfl
  have unasked : Client.Unasked client.timeline client := .of_log rfl
  exact ⟨(Client.invalidate_parts limit client).vacant tenured same,
    Client.lasting_unasked.letsGo.snd unasked⟩

theorem keeps_search :
    Keeps (Client.Alone leaving since) (Client.Alone leaving since)
      (attemptWith .transport Client.search) := by
  have vacant : Act.Leads (Client.Alone leaving since) Client.search
      (fun _ => Client.Vacant leaving none) (Client.Vacant leaving none) :=
    .weaken (fun _ alone => alone.toVacant) Client.Vacant.leads_search
  have unasked : Act.Leads (Client.Alone leaving since) Client.search
      (fun _ => Client.Unasked since) (Client.Unasked since) :=
    .weaken (fun _ alone => alone.unasked) Client.Unasked.leads_search
  exact .attemptWith (.either ((vacant.and unasked).mono (fun _ alone => alone)
    (fun _ _ both => ⟨both.1, both.2⟩) fun _ both => ⟨both.1, both.2⟩))

theorem keeps_selectPeer (peers : List Peer) :
    Keeps (Client.Alone leaving since) (Client.Alone leaving since)
      (ask (Terminal.selectPeer peers)) := by
  refine .attemptWith (.either (.atTerminal_of_shown (.selectPeer peers) ?_))
  intro client terminal alone shows
  exact ⟨alone.adds rfl rfl (shows.mono fun _ => Event.calm_of_shown),
    alone.unasked.quiet (shows.mono fun _ => Event.quiet_of_shown)⟩

/-- Until a device is picked the client is without a session, and asks for no link. -/
theorem pick_alone (tenured : start.Tenured) (same : start.exitRequested = leaving) :
    Leads (fun client => client = start) pick (fun _ => Client.Alone leaving start.timeline)
      (Client.Alone leaving start.timeline) (Client.Alone leaving start.timeline) :=
  .bind (leads_letGo tenured same) fun _ => .bind keeps_search keeps_selectPeer

/-- **A scan for devices connects, or leaves nothing behind.** -/
theorem scan_settles (tenured : start.Tenured) (same : start.exitRequested = leaving) :
    Leads (fun client => client = start) scan
      (fun outcome client => outcome = .none ∧ (Client.Alone leaving start.timeline client ∨
        (client.Orderly leaving ∧ ∃ session, client.session = some session ∧ session.Ready)))
      (Client.Vacant leaving none) (Client.Vacant leaving none) := by
  have toPicked : ∀ {α : Type} {work : Work α} {before : Client Action → Prop},
      Leads before work (fun _ => Client.Alone leaving start.timeline)
        (Client.Alone leaving start.timeline) (Client.Alone leaving start.timeline) →
      Leads before work (fun _ => Client.Alone leaving start.timeline)
        (Client.Vacant leaving none) (Client.Vacant leaving none) :=
    fun leads => leads.mono (fun _ holds => holds) (fun _ _ alone => alone)
      (fun _ alone => alone.toVacant) fun _ alone => alone.toVacant
  refine .bind (toPicked (leads_letGo tenured same)) fun _ => .bind (toPicked keeps_search)
    fun peers => .bind (toPicked (keeps_selectPeer peers)) fun picked => ?_
  cases picked with
  | cancelled => exact .pure fun _ alone => ⟨rfl, .inl alone⟩
  | value peer =>
    -- From here on a link is asked for, and every way out lets go of it.
    refine .weaken (fun _ alone => alone.toVacant) ?_
    refine .bind (Client.Vacant.leads_print _) fun _ =>
      .bind (.attemptWith (Client.Vacant.leads_openLink peer)) fun link => .read fun read vacant => ?_
    refine .weaken (fun client (same : client = read) => same ▸ vacant) ?_
    refine .bind (.always Client.Vacant.leads_takeCredentials) fun taken => ?_
    cases taken with
    | error => exact Client.Vacant.leads_abandon rfl
    | ok credentials =>
      simp only [Client.load_onLink]
      refine .bind (Client.Vacant.leads_print _) fun _ =>
        .bind (.always (Client.Vacant.leads_handshake _ link _ credentials)) fun negotiated => ?_
      obtain ⟨_ | _, session⟩ := negotiated
      case error =>
        exact .weaken (fun _ ended => ended.1) (Client.Vacant.leads_abandon rfl)
      case ok =>
        have told : Leads (Client.Vacant.Negotiated leaving (.ok (), session)) (Work.print "Done")
            (fun _ => Client.Vacant.Negotiated leaving (.ok (), session))
            (Client.Vacant leaving none) (Client.Vacant leaving none) :=
          .print fun _ ended => ⟨ended.1.adds rfl rfl (.note rfl), ended.2⟩
        refine .bind told fun _ => .bind Client.Vacant.leads_install fun _ => .pure ?_
        rintro client ⟨orderly, current, ready⟩
        exact ⟨rfl, .inr ⟨orderly, session, current, ready⟩⟩

end

end Work

/-! ## Leaving -/

/-- The current session was let go in an orderly way, and the user asked to leave. -/
structure Client.Leaves (before after : Client Action) : Prop where
  session : after.session = none
  log : after.timeline.log = before.timeline.log ++ Conversation.parting before.link
  asked : after.exitRequested = true

theorem Client.Leaves.tenured {before after : Client Action} (leaves : Leaves before after)
    (tenured : before.Tenured) : after.Tenured := by
  rw [Tenured, held_of_none leaves.session, leaves.log]
  exact Tenure.parting tenured

namespace Work

variable {leaving : Bool} {start : Client Action}

theorem exit_leaves {failed : Client Action → Prop} (orderly : start.Orderly leaving) :
    Leads (fun client => client = start) exit
      (fun outcome client => outcome = .none ∧ Client.Leaves start client) failed
      (Client.Halted leaving) := by
  have parts : Act.Leads (fun client => client = start) Client.invalidate
      (fun _ => Client.Parts start) (Client.Halted leaving) :=
    Act.Leads.mono (.of_snd fun limit client same => same ▸ Client.invalidate_parts limit client)
      (fun _ same => same) (fun _ _ parts => parts)
      fun _ parts => (parts.vacant orderly.tenure orderly.leaving).orderly.halted
  refine .bind (.always parts) fun _ => .bind (.always (.change fun client parts => ?_))
    fun _ => .pure fun _ leaves => ⟨rfl, leaves⟩
  exact ⟨parts.session, parts.log, rfl⟩

/-! ## Carrying out a line -/

/-- **Every command leaves the session in order**, or lets it go and leaves. -/
theorem dispatch_orderly (orderly : start.Orderly leaving) (line : String) :
    Leads (fun client => client = start) (dispatch line)
      (fun outcome client => client.Orderly leaving ∨
        (outcome = .none ∧ Client.Leaves start client))
      (Client.Orderly leaving) (Client.Halted leaving) := by
  refine leads_dispatch (fun action consumed _ => ?_) (.inl orderly)
    (fun line => .inl (stable_orderly.print line start orderly)) orderly
  by_cases isScan : action = .scan
  case pos =>
    subst isScan
    refine (scan_settles orderly.tenure orderly.leaving).mono (fun _ same => same)
      (fun _ _ scanned => .inl ?_) (fun _ vacant => vacant.orderly)
      fun _ vacant => vacant.orderly.halted
    obtain ⟨-, alone | ⟨orderly, -⟩⟩ := scanned
    · exact alone.orderly
    · exact orderly
  by_cases isExit : action = .exit
  case pos =>
    subst isExit
    exact (exit_leaves orderly).mono (fun _ same => same) (fun _ _ leaves => .inr leaves)
      (fun _ failed => failed) fun _ halted => halted
  have keeps : Keeps (Client.Orderly leaving) (Client.Halted leaving)
      (perform action ((Text.words line).drop consumed)) := by
    by_cases isStatus : action = .wifiStatus
    case pos =>
      subst isStatus
      exact wifiStatus_orderly
    exact stable_orderly.keeps_perform isScan isStatus isExit _
  exact keeps.mono (fun _ same => same ▸ orderly) (fun _ _ kept => .inl kept)
    (fun _ kept => kept) fun _ halted => halted

end Work

end Commissioner
