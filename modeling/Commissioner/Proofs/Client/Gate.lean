import Commissioner.Command.BuiltIn
import Commissioner.Proofs.Client.Connect
import Commissioner.Proofs.Client.Growth
import Commissioner.Proofs.Client.Turns

/-!
# Nothing travels but on links handed over

In the command loop, whatever travels is carried by a link that was handed over by a handshake
against the name in the settings, with credentials that were on offer (`Accounted`). Every
turn keeps this (`Client.Guarded`), whatever the user enters, however the links behave and
wherever a command is interrupted. It can be counted from any moment on at which there is no
session (`Client.accounted_of_none`), the beginning above all.
-/

set_option autoImplicit false

namespace Commissioner

/-! ## Accounts of a log -/

variable {settings : Settings} {offers : Handshake → Prop} {record : List Event}

theorem Handover.mono {fewer : Handshake → Prop} {longer opening : List Event} {secured : Link}
    (handover : Handover settings fewer longer opening secured) (since : record <+: longer)
    (more : ∀ credentials, fewer credentials → offers credentials) :
    Handover settings offers record opening secured := by
  obtain ⟨between, rfl⟩ := since
  cases handover with
  | intro opened quiet offered bounds secures =>
      rw [List.append_assoc record] at opened
      exact .intro opened quiet (more _ offered) bounds secures

/-- Since a link was handed over, all that a log notes is what it carried, and this is what is
left of it. -/
def Channel (settings : Settings) (offers : Handshake → Prop) (record log : List Event)
    (held : Option Link) : Prop :=
  ∃ opening secured carried, log = opening ++ carried ∧
    Handover settings offers record opening secured ∧ Carries (some secured) carried held

/-- Whatever travels in a log since a record of it is carried by the link that was handed over
last, from the handover on, and that link was opened since. -/
def Accounted (settings : Settings) (offers : Handshake → Prop) (record log : List Event) : Prop :=
  ∀ before event after, log = before ++ event :: after → record <+: before →
    event.traffic? ≠ none →
      ∃ opening secured carried more held, before = opening ++ carried ∧ more <+: after ∧
        Handover settings offers record opening secured ∧
        Carries (some secured) (carried ++ event :: more) held

theorem Channel.trans {log events : List Event} {held after : Option Link}
    (channel : Channel settings offers record log held) (carries : Carries held events after) :
    Channel settings offers record (log ++ events) after := by
  obtain ⟨opening, secured, carried, rfl, handover, earlier⟩ := channel
  exact ⟨opening, secured, carried ++ events, List.append_assoc .., handover, earlier.trans carries⟩

namespace Accounted

/-- Nothing has travelled since. -/
theorem refl : Accounted settings offers record record := by
  rintro before event after rfl ⟨rest, longer⟩
  have lengths := congrArg List.length longer
  simp only [List.length_append, List.length_cons] at lengths
  omega

/-- Events are accounted for in turn when each of them by which something travels is. -/
theorem append {log events : List Event} (accounted : Accounted settings offers record log)
    (recent : ∀ front event after, events = front ++ event :: after → event.traffic? ≠ none →
      ∃ opening secured carried more held, log ++ front = opening ++ carried ∧ more <+: after ∧
        Handover settings offers record opening secured ∧
        Carries (some secured) (carried ++ event :: more) held) :
    Accounted settings offers record (log ++ events) := by
  intro before event after noted since traffic
  rcases List.append_eq_append_iff.mp noted with ⟨front, rfl, late⟩ | ⟨back, early, late⟩
  · exact recent front event after late traffic
  · rcases List.cons_eq_append_iff.mp late with ⟨rfl, rest⟩ | ⟨middle, rfl, rfl⟩
    · rw [List.append_nil] at early
      have now := recent [] event after rest traffic
      rw [List.append_nil, early] at now
      exact now
    · obtain ⟨opening, secured, carried, more, held, split, shorter, handover, carries⟩ :=
        accounted before event middle early since traffic
      exact ⟨opening, secured, carried, more, held, split,
        shorter.trans (List.prefix_append _ _), handover, carries⟩

/-- Events by which nothing travels need no account. -/
theorem append_silent {log events : List Event} (accounted : Accounted settings offers record log)
    (silent : ∀ event ∈ events, event.traffic? = none) :
    Accounted settings offers record (log ++ events) := by
  refine accounted.append fun front event after split traffic => ?_
  have member : event ∈ events := by
    rw [split]
    exact List.mem_append_right front List.mem_cons_self
  exact absurd (silent event member) traffic

/-- What a link carries that was handed over is accounted for. -/
theorem append_carried {log events : List Event} {held after : Option Link}
    (accounted : Accounted settings offers record log)
    (channel : Channel settings offers record log held) (carries : Carries held events after) :
    Accounted settings offers record (log ++ events) := by
  refine accounted.append fun front event later split _ => ?_
  subst split
  obtain ⟨opening, secured, carried, rfl, handover, earlier⟩ := channel
  refine ⟨opening, secured, carried ++ front, later, after, List.append_assoc ..,
    List.prefix_refl _, handover, ?_⟩
  rw [List.append_assoc]
  exact earlier.trans carries

end Accounted

/-! ## What every turn keeps -/

namespace Client

/-- All that has travelled since a record of the log is accounted for, and the current session
uses the link that was handed over last. -/
structure Guarded (settings : Settings) (offers : Handshake → Prop) (record : List Event)
    (client : Client Action) : Prop where
  grown : record <+: client.timeline.log
  set : client.settings = settings
  offered : ∀ credentials, client.Offers credentials → offers credentials
  accounted : Accounted settings offers record client.timeline.log
  current : ∀ session, client.session = some session →
    session.Opened ∧ Channel settings offers record client.timeline.log session.link

namespace Guarded

variable {client after : Client Action}

theorem idles (guarded : Guarded settings offers record client) (idles : Idles client after) :
    Guarded settings offers record after where
  grown := by
    obtain ⟨events, log, -⟩ := idles.log
    exact guarded.grown.trans ⟨events, log.symm⟩
  set := idles.settings.trans guarded.set
  offered credentials left := guarded.offered credentials (idles.offers credentials left)
  accounted := by
    obtain ⟨events, log, silent⟩ := idles.log
    rw [log]
    exact guarded.accounted.append_silent silent
  current session current := by cases idles.session.symm.trans current

/-- A scan for devices hands over the link of the session that it makes current. -/
theorem connects (guarded : Guarded settings offers record client)
    (connects : Connects client after) :
    Guarded settings offers record after := by
  cases connects with
  | idle idles => exact guarded.idles idles
  | connected idles current _ secured log =>
      have without := guarded.idles idles
      refine ⟨without.grown, without.set, without.offered, without.accounted,
        fun session same => ?_⟩
      cases current.symm.trans same
      obtain ⟨link, held, handover⟩ := secured.handover
      rw [guarded.set] at handover
      refine ⟨.inl secured.phase, _, link, _, log, handover.mono guarded.grown guarded.offered, ?_⟩
      rw [held]
      exact .quiet rfl (.refl _)

/-- Quiet times change nothing that matters. -/
theorem quiet (guarded : Guarded settings offers record client)
    (same : after.settings = client.settings)
    (credentials : after.surroundings.credentials = client.surroundings.credentials)
    (session : after.session = client.session)
    (quiet : client.timeline.Quiet after.timeline) : Guarded settings offers record after where
  grown := guarded.grown.trans quiet.prefix_log
  set := same.trans guarded.set
  offered := by
    unfold Client.Offers
    rw [credentials]
    exact guarded.offered
  accounted := by
    obtain ⟨events, log, quiet⟩ := quiet
    rw [log]
    exact guarded.accounted.append_silent fun event member =>
      Event.traffic?_of_quiet (quiet event member)
  current other current := by
    obtain ⟨events, log, quiet⟩ := quiet
    obtain ⟨opened, channel⟩ := guarded.current other (session.symm.trans current)
    rw [log]
    exact ⟨opened, channel.trans (.of_quiet quiet _)⟩

/-- What the current session does, its link carries. -/
theorem moves (guarded : Guarded settings offers record client) {session : Session}
    {talk : Conversation} {taken : List Tlv} {written : Octets}
    (current : client.session = some session)
    (moves : Conversation.Moves ⟨session, client.timeline⟩ taken written talk) :
    Guarded settings offers record (client.holding talk) := by
  obtain ⟨opened, channel⟩ := guarded.current session current
  obtain ⟨events, log, carries⟩ := moves.exists_carries opened
  have noted : (client.holding talk).timeline.log = client.timeline.log ++ events := log
  refine ⟨?_, guarded.set, guarded.offered, ?_, fun other same => ?_⟩
  · exact guarded.grown.trans ⟨events, noted.symm⟩
  · rw [noted]
    exact guarded.accounted.append_carried channel carries
  · cases same
    rw [noted]
    exact ⟨moves.opened opened, channel.trans carries⟩

end Guarded

theorem lasting_guarded : Lasting (Guarded settings offers record) where
  shows _ _ guarded quiet := guarded.quiet rfl rfl rfl quiet
  store _ _ guarded := guarded.quiet rfl rfl rfl (.refl _)
  moves _ _ _ _ _ guarded current _ moves := guarded.moves current moves
  letsGo := .of_snd fun limit client guarded => guarded.idles (invalidate_idles limit client)
  without _ guarded := ⟨guarded.grown, guarded.set, guarded.offered, guarded.accounted,
    fun _ current => by cases current⟩
  leave _ guarded := guarded.quiet rfl rfl rfl (.refl _)
  expecting _ _ guarded := guarded.quiet rfl rfl rfl (.refl _)

/-- **A turn of the loop keeps what has travelled accounted for**, wherever it is dropped. -/
theorem keeps_runLine (line : String) :
    Act.Keeps (Guarded settings offers record) (runLine line) := by
  have scans : ∀ client, Guarded settings offers record client →
      Work.Leads (fun other => other = client) Work.scan (fun _ => Guarded settings offers record)
        (Guarded settings offers record) (Guarded settings offers record) := by
    intro client guarded
    exact (Work.scan_connects client).mono (fun _ same => same)
      (fun _ _ connects => guarded.connects connects) (fun _ idles => guarded.idles idles)
      fun _ idles => guarded.idles idles
  intro limit client guarded
  exact lasting_guarded.leads_runLine guarded (fun _ _ => scans) limit client rfl

theorem keeps_runTurns (turns : Nat) :
    Act.Keeps (Guarded settings offers record) (runTurns turns) :=
  leads_runTurns keeps_runLine
    (fun _ _ guarded shows => guarded.quiet rfl rfl rfl (shows.mono fun _ => Event.quiet_of_shown))
    lasting_guarded.letsGo (fun _ guarded => guarded) turns

/-- A client without a session has nothing to account for yet. -/
theorem guarded_of_none {client : Client Action} (without : client.session = none) :
    Guarded client.settings client.Offers client.timeline.log client where
  grown := List.prefix_refl _
  set := rfl
  offered _ offered := offered
  accounted := .refl
  current _ current := by cases without.symm.trans current

/-- What such a client does from then on is accounted for. -/
theorem accounted_of_none {client : Client Action} (without : client.session = none)
    (turns limit : Nat) :
    Accounted client.settings client.Offers client.timeline.log
      (runTurns turns limit client).2.timeline.log :=
  ((keeps_runTurns turns).snd (guarded_of_none without)).accounted

end Client

/-- **Nothing travels before the handshake.** Whatever calls are made on a new session over a
raw link, and wherever they are dropped, nothing travels but on the link that a handshake
handed back in time, which was begun with credentials that had been loaded; and when a
handshake is not carried through, nothing travels at all. In the command loop, whatever the
user enters and wherever the user interrupts it, all that travels is accounted for in this
way, by handshakes against the name in the settings. -/
theorem nothing_travels_before_handshake :
    (∀ (link : Link) (limits : Limits) (timeline : Timeline)
      (calls : List (Conversation.Call × Nat)),
      Conversation.Gated link ⟨Session.onLink link limits, timeline⟩ calls ∧
      ∀ before later name limit, calls = before ++ (.handshake name, limit) :: later →
        (Conversation.run before ⟨Session.onLink link limits, timeline⟩).2.session.phase =
          .handshaking →
        ((Conversation.Call.handshake name).perform limit
          (Conversation.run before ⟨Session.onLink link limits, timeline⟩).2).1 ≠ .done →
        timeline.Quiet
          (Conversation.run calls ⟨Session.onLink link limits, timeline⟩).2.timeline) ∧
    ∀ (registry : Registry Action) (settings : Settings) (surroundings : Surroundings)
      (inputs : List Input) (limit : Nat),
      Accounted settings (Handshake.OnOffer surroundings.credentials) []
        (Client.run limit
          (Client.start registry settings surroundings inputs)).2.timeline.log := by
  refine ⟨fun link limits timeline calls => ⟨Conversation.gated_run link limits timeline calls, ?_⟩,
    fun registry settings surroundings inputs limit => ?_⟩
  · rintro before later name limit rfl phase undone
    have fresh : Phase.uninitialized ≠ .established := by decide
    exact Conversation.quiet_of_handshake_ne_done fresh phase undone
  · have without : (Client.start registry settings surroundings inputs).session = none := rfl
    exact Client.accounted_of_none without _ limit

/-! ## A device that accepts three octets -/

/-- One device is found, without credentials on offer. Its link accepts three octets and no
more, and the user interrupts the second and the third command after 100 ms. -/
def stallingSurroundings : Surroundings where
  searches := [⟨some 0, .ok [⟨"TBR", "AA:BB:CC:DD:EE:01", some (-48)⟩]⟩]
  openings := [⟨some 0, .ok ⟨[], [.upTo 3, .stall], [], .orderly⟩⟩]
  credentials := []
  interrupts := [none, some 100, some 100]

/-- A user who enters these lines. -/
def stallingClient (lines : List String) : Client Action :=
  Client.start .builtIn .default stallingSurroundings (lines.map fun line => ⟨some 0, .line line⟩)

/-- When the user connects to the device and asks for the state of its station, the three
octets are accounted for. -/
theorem nothing_travels_before_handshake_stalling :
    ∃ before after : List Event,
      (Client.run 1000 (stallingClient ["scan", "1", "wifi status"])).2.timeline.log =
        before ++ .wrote 1 [0x82, 11, 119] :: after ∧
      ∃ opening secured carried more held, before = opening ++ carried ∧ more <+: after ∧
        Handover .default (Handshake.OnOffer stallingSurroundings.credentials) [] opening secured ∧
        Carries (some secured) (carried ++ .wrote 1 [0x82, 11, 119] :: more) held := by
  have accounted : Accounted .default (Handshake.OnOffer stallingSurroundings.credentials) []
      (Client.run 1000 (stallingClient ["scan", "1", "wifi status"])).2.timeline.log := by
    have all := nothing_travels_before_handshake.2 .builtIn .default stallingSurroundings
    rw [stallingClient]
    exact all _ 1000
  have log :
      let log := (Client.run 1000 (stallingClient ["scan", "1", "wifi status"])).2.timeline.log
      log = log.take 15 ++ .wrote 1 [0x82, 11, 119] :: log.drop 16 := by
    decide +kernel
  exact ⟨_, _, log, accounted _ _ _ log List.nil_prefix (Option.some_ne_none _)⟩

end Commissioner
