import Commissioner.Proofs.Client.Steps
import Commissioner.Proofs.Session.Gate

/-!
# How clients come by sessions

Only a scan for devices makes a session current. It lets go of the session before, and up to
its end nothing travels (`Client.Idles`). It leaves the client without a session, or with
one whose link was handed over to it (`Client.Connects`): a handshake against the name in the
settings was begun on a link opened for it, with credentials that were on offer, and came to
that link in time (`Handover`).
-/

set_option autoImplicit false

namespace Commissioner

/-! ## Credentials on offer -/

/-- Whether a handshake is what a client may be given next or later: one of those on offer,
or one that accepts every device when nothing is on offer. -/
def Handshake.OnOffer (offers : List (Except SessionError Handshake)) (credentials : Handshake) :
    Prop :=
  .ok credentials ∈ offers ∨ (offers = [] ∧ credentials = .settled (some 0) .accept)

namespace Handshake.OnOffer

variable {offers : List (Except SessionError Handshake)} {credentials : Handshake}

/-- What is taken was on offer. -/
theorem of_taken
    (taken : (takeTurn offers).1.getD (.ok (.settled (some 0) .accept)) = .ok credentials) :
    OnOffer offers credentials := by
  rcases offers with _ | ⟨first, _ | ⟨second, rest⟩⟩
  · cases taken
    exact .inr ⟨rfl, rfl⟩
  · cases taken
    exact .inl List.mem_cons_self
  · cases taken
    exact .inl List.mem_cons_self

/-- What is left was on offer before. -/
theorem of_left (left : OnOffer (takeTurn offers).2 credentials) : OnOffer offers credentials := by
  rcases offers with _ | ⟨first, _ | ⟨second, rest⟩⟩
  · exact left
  · exact left
  · rcases left with member | ⟨empty, -⟩
    · exact .inl (List.mem_cons_of_mem first member)
    · cases empty

end Handshake.OnOffer

/-! ## Handovers -/

/-- The log at the moment at which a handshake handed a link over on which records may
travel. It was begun against the name in the settings, on a link that had been opened just
before and since a record of the log, with credentials that were on offer. -/
inductive Handover (settings : Settings) (offers : Handshake → Prop) (record : List Event) :
    List Event → Link → Prop where
  | intro {talk : Conversation} {earlier between : List Event} {credentials : Handshake}
      {raw secured : Link} {negotiated : Timeline} {limit : Nat}
      (opened : talk.timeline.log = record ++ earlier ++ .opened raw.id :: between)
      (quiet : ∀ event ∈ between, event.quiet = true) (offered : offers credentials)
      (bounds : talk.session.limits = settings.limits)
      (secures : talk.Secures settings.serverName limit credentials raw secured negotiated) :
      Handover settings offers record (negotiated.log ++ [.secured secured.id]) secured

namespace Client

/-! ## Idle clients -/

/-- What a client has besides its session. Only the dataset can be replaced. -/
def outfit (client : Client Action) : Registry Action × Settings × Dataset :=
  (client.registry, client.settings, client.dataset)

/-- A client that holds no session stays without one, and nothing travels. -/
structure Idles (before after : Client Action) : Prop where
  outfit : after.outfit = before.outfit
  offers : ∀ credentials, Handshake.OnOffer after.surroundings.credentials credentials →
    Handshake.OnOffer before.surroundings.credentials credentials
  session : after.session = none
  log : ∃ events, after.timeline.log = before.timeline.log ++ events ∧
    ∀ event ∈ events, event.traffic? = none

namespace Idles

variable {before middle after : Client Action}

theorem settings (idles : Idles before after) : after.settings = before.settings :=
  congrArg (fun outfit => outfit.2.1) idles.outfit

theorem trans (earlier : Idles before middle) (later : Idles middle after) :
    Idles before after where
  outfit := later.outfit.trans earlier.outfit
  offers credentials offered := earlier.offers credentials (later.offers credentials offered)
  session := later.session
  log := by
    obtain ⟨events, log, silent⟩ := earlier.log
    obtain ⟨more, logMore, silentMore⟩ := later.log
    refine ⟨events ++ more, by rw [logMore, log, List.append_assoc], fun event member => ?_⟩
    rcases List.mem_append.mp member with early | late
    · exact silent event early
    · exact silentMore event late

/-- Only the timeline and what the user and the surroundings have left may differ. -/
theorem of_quiet (outfit : after.outfit = before.outfit)
    (credentials : after.surroundings.credentials = before.surroundings.credentials)
    (session : after.session = none) (quiet : before.timeline.Quiet after.timeline) :
    Idles before after where
  outfit := outfit
  offers _ offered := credentials ▸ offered
  session := session
  log := by
    obtain ⟨events, log, quiet⟩ := quiet
    exact ⟨events, log, fun event member => Event.traffic?_of_quiet (quiet event member)⟩

/-- Events are noted by which nothing travels. -/
theorem note (idles : Idles before middle) (event : Event) (silent : event.traffic? = none) :
    Idles before { middle with timeline := middle.timeline.note event } where
  outfit := idles.outfit
  offers := idles.offers
  session := idles.session
  log := by
    obtain ⟨events, log, silence⟩ := idles.log
    refine ⟨events ++ [event], ?_, fun other member => ?_⟩
    · rw [Timeline.note, log, List.append_assoc]
    · rcases List.mem_append.mp member with early | late
      · exact silence other early
      · rw [List.mem_singleton.mp late]
        exact silent

theorem print {line : String} (idles : Idles before middle) :
    Idles before (middle.noted (.printed line)) :=
  idles.note (.printed line) rfl

end Idles

/-! ## Letting go -/

/-- The link that the current session holds. -/
def link (client : Client Action) : Option Link :=
  client.session.bind Session.link

/-- The current session was let go in an orderly way. -/
structure Parts (before after : Client Action) : Prop where
  session : after.session = none
  log : after.timeline.log = before.timeline.log ++ Conversation.parting before.link
  leaving : after.exitRequested = before.exitRequested

/-- Letting the current session go shuts its link down and lets go of it, also when it is
dropped. -/
theorem invalidate_parts (limit : Nat) (client : Client Action) :
    Parts client (invalidate limit client).2 := by
  unfold invalidate
  cases current : client.session with
  | none =>
      refine ⟨current, ?_, rfl⟩
      rw [link, current, Option.bind_none, Conversation.parting, List.append_nil]
  | some session =>
      refine ⟨rfl, ?_, rfl⟩
      rw [link, current]
      exact Conversation.log_close limit ⟨session, client.timeline⟩

theorem Parts.quiet {before after : Client Action} (parts : Parts before after) :
    before.timeline.Quiet after.timeline :=
  ⟨_, parts.log, Conversation.quiet_of_mem_parting⟩

/-- Letting the current session go leaves the client idle, also when it is dropped. -/
theorem invalidate_idles (limit : Nat) (client : Client Action) :
    Idles client (invalidate limit client).2 := by
  unfold invalidate
  split
  next session => exact .of_quiet rfl rfl session (.refl _)
  next session _ =>
    exact .of_quiet rfl rfl rfl (Conversation.quiet_close limit ⟨session, client.timeline⟩)

/-! ## Searching and opening -/

variable {start : Client Action}

/-- What survives that time passes lasts while something is waited for. -/
theorem keeps_await {β : Type} {kept : Client Action → Prop}
    (passes : ∀ (client : Client Action) timeline, kept client →
      timeline.log = client.timeline.log → kept { client with timeline := timeline })
    (attempt : Attempt β) : Act.Keeps kept (await attempt) := by
  refine .of_snd fun limit client holds => ?_
  unfold await
  split
  next waited => exact passes client _ holds (Timeline.log_of_wait waited)
  next waited => exact passes client _ holds (Timeline.log_of_wait waited)

theorem leads_await {β : Type} (attempt : Attempt β) :
    Act.Keeps (Idles start) (await attempt) :=
  keeps_await (fun _ _ idles same =>
    idles.trans (.of_quiet rfl rfl idles.session (.of_log same))) attempt

theorem leads_search : Act.Keeps (Idles start) search :=
  .bind
    (.exchange fun _ idles =>
      ⟨idles.outfit, idles.offers, idles.session, (idles.note .discovering rfl).log⟩)
    fun _ => leads_await _

/-- A client is idle and a link was opened for it, with quiet times since. -/
structure Opens (before : Client Action) (link : Link) (after : Client Action) : Prop where
  idles : Idles before after
  opened : ∃ earlier between,
    after.timeline.log = before.timeline.log ++ earlier ++ .opened link.id :: between ∧
      ∀ event ∈ between, event.quiet = true

theorem leads_openLink (peer : Peer) :
    Act.Leads (Idles start) (openLink peer) (Act.either (Opens start) (Idles start))
      (Idles start) := by
  refine .bind
    (.exchange fun _ idles =>
      ⟨idles.outfit, idles.offers, idles.session, (idles.note (.opening _) rfl).log⟩)
    fun attempt => .bind (leads_await attempt) fun result => ?_
  cases result with
  | error => exact .pure fun _ idles => idles
  | ok far =>
      refine .exchange fun client idles => ⟨⟨idles.outfit, idles.offers, idles.session,
        (idles.note (.opened (client.opened + 1)) rfl).log⟩, ?_⟩
      obtain ⟨events, log, -⟩ := idles.log
      refine ⟨events, [], ?_, nofun⟩
      simp only [Timeline.note, log]

namespace Opens

variable {link : Link} {client : Client Action}

theorem print {line : String} (opens : Opens start link client) :
    Opens start link (client.noted (.printed line)) where
  idles := opens.idles.print
  opened := by
    obtain ⟨earlier, between, log, quiet⟩ := opens.opened
    refine ⟨earlier, between ++ [.printed line], ?_, fun event member => ?_⟩
    · rw [Client.noted, Timeline.note, log, List.append_assoc, List.cons_append]
    · rcases List.mem_append.mp member with early | late
      · exact quiet event early
      · rw [List.mem_singleton.mp late]
        rfl

end Opens

/-! ## Connecting -/

/-- What credentials a client that is about to connect was given at the start. -/
abbrev Offers (client : Client Action) : Handshake → Prop :=
  Handshake.OnOffer client.surroundings.credentials

theorem leads_takeCredentials {link : Link} {dropped : Client Action → Prop} :
    Act.Leads (Opens start link) takeCredentials
      (Act.either (fun credentials after => Opens start link after ∧ start.Offers credentials)
        (Idles start)) dropped := by
  refine .exchange fun client opens => ?_
  have idles : Idles start { client with
      surroundings := { client.surroundings with
        credentials := (takeTurn client.surroundings.credentials).2 } } :=
    ⟨opens.idles.outfit, fun credentials left => opens.idles.offers credentials left.of_left,
      opens.idles.session, opens.idles.log⟩
  simp only
  cases taken : (takeTurn client.surroundings.credentials).1.getD
      (.ok (.settled (some 0) .accept)) with
  | error => exact idles
  | ok credentials =>
      exact ⟨⟨idles, opens.opened⟩, opens.idles.offers credentials (.of_taken taken)⟩

/-- A session is established whose link was handed over, and is not in use yet. -/
structure Secured (start : Client Action) (session : Session) (opening : List Event) : Prop where
  phase : session.phase = .established
  finished : session.unfinished = false
  handover : ∃ secured, session.link = some secured ∧
    Handover start.settings start.Offers start.timeline.log opening secured

/-- With credentials that are loaded, a session on a link is ready for its handshake. -/
def ready (link : Link) (limits : Limits) (credentials : Handshake) : Session :=
  { Session.onLink link limits with phase := .handshaking, handshake := some credentials }

theorem load_onLink (link : Link) (limits : Limits) (credentials : Handshake) :
    (Session.onLink link limits).load credentials = .ok (ready link limits credentials) :=
  rfl

/-- The handshake of a session on a link that was just opened establishes it, or comes to
nothing. -/
theorem leads_handshake {link : Link} {credentials : Handshake}
    (offered : start.Offers credentials) :
    Act.Leads (Opens start link)
      (onSession (ready link start.settings.limits credentials)
        (Conversation.handshake start.settings.serverName))
      (fun (result, session) after => Idles start after ∧
        (result = .ok () → session.limits = start.settings.limits ∧
          Secured start session after.timeline.log))
      (Idles start) := by
  intro limit client opens
  have idles : ∀ timeline, client.timeline.Quiet timeline →
      Idles start { client with timeline := timeline } := fun timeline quiet =>
    opens.idles.trans (.of_quiet rfl rfl opens.idles.session quiet)
  unfold onSession
  cases ended : Conversation.handshake start.settings.serverName limit
      ⟨ready link start.settings.limits credentials, client.timeline⟩ with
  | mk result after =>
    cases Conversation.handshake_ends ended with
    | refused other => exact absurd rfl other
    | failed _ quiet => exact ⟨idles _ quiet, nofun⟩
    | dropped _ quiet => exact idles _ quiet
    | secured secures quiet =>
        refine ⟨(idles _ quiet).note (.secured _) rfl, fun _ => ⟨rfl, rfl, rfl, _, rfl, ?_⟩⟩
        obtain ⟨earlier, between, log, still⟩ := opens.opened
        cases secures.held
        cases secures.loaded
        exact .intro log still offered rfl secures

/-! ## Scanning for devices -/

/-- A client that holds no session has none to let go when it comes by another. -/
theorem install_of_none (session : Session) (limit : Nat) {client : Client Action}
    (none : client.session = none) :
    install session limit client = (some (), { client with session := some session }) := by
  have kept : invalidate limit client = (some (), client) := by
    unfold invalidate
    rw [none]
  rw [install, Act.bind_apply, kept]
  rfl

/-- A client came by a session, which it holds, and printed something since its link was
handed over. -/
inductive Connects (before after : Client Action) : Prop where
  /-- It did not. -/
  | idle (idles : Idles before after)
  | connected {session : Session} {opening : List Event} {line : String}
      (idles : Idles before { after with session := none })
      (current : after.session = some session)
      (bounded : session.limits = before.settings.limits) (secured : Secured before session opening)
      (log : after.timeline.log = opening ++ [.printed line])

end Client

namespace Work

/-- A session that did not become the current one is let go. -/
theorem leads_abandon {start : Client Action} {error : SessionError} {α : Type}
    {after : α → Client Action → Prop} (session : Session) :
    Leads (Client.Idles start) (do abandon session; throw (.session error) : Work α) after
      (Client.Idles start) (Client.Idles start) := by
  refine .bind (.always (.change fun client idles => ?_)) fun _ => .throw fun _ idles => idles
  have released : client.timeline.Quiet (client.timeline.release session.link) := by
    unfold Timeline.release
    split
    next => exact .released
    next => exact .refl _
  exact idles.trans (.of_quiet rfl rfl idles.session released)

/-- **What a scan for devices comes to**, however it ends. -/
theorem scan_connects (start : Client Action) :
    Leads (fun client => client = start) scan (fun _ => Client.Connects start)
      (Client.Idles start) (Client.Idles start) := by
  have letsGo : Leads (fun client => client = start) (always Client.invalidate)
      (fun _ => Client.Idles start) (Client.Idles start) (Client.Idles start) :=
    .always (.of_snd fun limit client same => same ▸ Client.invalidate_idles limit client)
  have asks : ∀ peers, Leads (Client.Idles start) (Work.ask (Terminal.selectPeer peers))
      (fun _ => Client.Idles start) (Client.Idles start) (Client.Idles start) := by
    intro peers
    refine .attemptWith (.either (.atTerminal_of_silent (.selectPeer peers) ?_))
    intro client terminal idles quiet
    exact idles.trans (.of_quiet rfl rfl idles.session quiet)
  have searches : Leads (Client.Idles start) (attemptWith .transport Client.search)
      (fun _ => Client.Idles start) (Client.Idles start) (Client.Idles start) :=
    .attemptWith Client.leads_search.either
  refine .bind letsGo fun _ => .bind searches fun peers => .bind (asks peers) fun picked => ?_
  cases picked with
  | cancelled => exact .pure fun _ idles => .idle idles
  | value peer =>
    refine .bind (.print fun _ idles => idles.print) fun _ =>
      .bind (.attemptWith (Client.leads_openLink peer)) fun link => .read fun read opens => ?_
    rw [opens.idles.settings]
    refine Leads.weaken (fun client (same : client = read) => same ▸ opens) ?_
    refine .bind (.always Client.leads_takeCredentials) fun taken => ?_
    cases taken with
    | error => exact leads_abandon _
    | ok credentials =>
      simp only [Client.load_onLink]
      refine fun limit client holds => Leads.bind (.print fun _ opens => opens.print)
        (fun _ => .bind (.always (Client.leads_handshake holds.2)) fun negotiated => ?_)
        limit client holds.1
      obtain ⟨_ | _, session⟩ := negotiated
      case error =>
        exact .weaken (fun _ holds => holds.1) (leads_abandon session)
      case ok =>
        -- The log ends with the handover, and with one more line once that is printed.
        have ends : Leads
            (fun after => Client.Idles start after ∧
              ((Except.ok () : Except SessionError Unit) = .ok () →
                session.limits = start.settings.limits ∧
                  Client.Secured start session after.timeline.log))
            (Work.print "Done")
            (fun _ after => Client.Idles start after ∧ session.limits = start.settings.limits ∧
              ∃ opening, Client.Secured start session opening ∧
                after.timeline.log = opening ++ [.printed "Done"])
            (Client.Idles start) (Client.Idles start) :=
          .print fun client holds =>
            ⟨holds.1.print, (holds.2 rfl).1, client.timeline.log, (holds.2 rfl).2, rfl⟩
        refine .bind ends fun _ => ?_
        refine .bind (.always fun limit client holds => ?_) fun _ => .pure fun _ holds => holds
        obtain ⟨idles, bounded, opening, secured, log⟩ := holds
        rw [Client.install_of_none session limit idles.session]
        exact .connected ⟨idles.outfit, idles.offers, rfl, idles.log⟩ rfl bounded secured log

end Work

end Commissioner
