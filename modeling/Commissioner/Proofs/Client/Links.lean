import Commissioner.Proofs.Client.Prompts

/-!
# One link at a time

In a run of the loop one link at most is alive at any time, and when another one is asked for
none is, and the client holds no session. Only a scan for devices asks for links, and it either
connects or leaves nothing behind, however it ends and wherever it is interrupted
(`Client.ScanEnds`).
-/

set_option autoImplicit false

namespace Commissioner

namespace Client

variable {leaving : Bool} {start client after : Client Action}

/-! ## What a log says of links -/

theorem alive_of_none (tenured : client.Tenured) (without : client.session = none) :
    alive client.timeline.log = [] := by
  rw [Tenured, held_of_none without] at tenured
  exact tenured.alive_eq

theorem alive_of_link {session : Session} {link : Link} (tenured : client.Tenured)
    (current : client.session = some session) (held : session.link = some link) :
    alive client.timeline.log = [link.id] := by
  rw [Tenured, held_of_some current, Session.held, held] at tenured
  exact tenured.alive_eq

/-! ## Scanning for devices -/

/-- How a scan for devices ends that begins with a client. -/
inductive ScanEnds (before : Client Action) : Option Ran → Client Action → Prop where
  /-- Something fails on the way. What was opened is let go. -/
  | failed {error : CommandError} {ended : Client Action} (without : ended.session = none)
      (released : alive ended.timeline.log = []) :
      ScanEnds before (some (.ended (.error error))) ended
  /-- It is interrupted, or dropped in another way. What was opened is let go. -/
  | stopped {ran : Option Ran} {ended : Client Action}
      (stop : ran = some .interrupted ∨ ran = none) (without : ended.session = none)
      (released : alive ended.timeline.log = []) : ScanEnds before ran ended
  /-- No device is found or picked, and no link was asked for. -/
  | cancelled {ended : Client Action} (without : ended.session = none)
      (released : alive ended.timeline.log = []) (unasked : Unasked before.timeline ended) :
      ScanEnds before (some (.ended (.ok .none))) ended
  /-- A new session is current, whose link was handed over, and only this link is alive. -/
  | connected {ended : Client Action} {session : Session} {link : Link} {opening : List Event}
      {line : String} (current : ended.session = some session) (ready : session.Ready)
      (held : session.link = some link) (single : alive ended.timeline.log = [link.id])
      (secured : Secured before session opening)
      (log : ended.timeline.log = opening ++ [.printed line]) :
      ScanEnds before (some (.ended (.ok .none))) ended

/-- A scan comes to an end in the ways in which commands do. -/
theorem scan_ends_of_dispatch {interrupts : List (Option Nat)} {line : String} {consumed : Nat}
    (settled : start.Settled)
    (resolved : start.registry.resolve (Text.words line) = .run .scan consumed) :
    Work.Leads (fun client => client = start.expecting interrupts) (Work.dispatch line)
      (fun outcome => ScanEnds start (some (.ended (.ok outcome)))) (Vacant start.exitRequested none)
      (Vacant start.exitRequested none) := by
  have tenured : (start.expecting interrupts).Tenured := settled.tenure
  -- What is alive behind the scan, and by which handshake the session on it came about.
  have settles := Work.scan_settles tenured rfl
  have both := settles.and (Work.scan_connects (start.expecting interrupts))
  rintro limit client rfl
  have same : (start.expecting interrupts).registry.resolve (Text.words line) =
      .run .scan consumed := resolved
  have done := both limit _ rfl
  simp only [Work.run_dispatch same limit, Work.perform]
  rcases ended : Work.scan.run limit (start.expecting interrupts) with ⟨_ | _ | outcome, after⟩
  all_goals rw [ended] at done
  case none => exact done.1
  case some.error => exact done.1
  case some.ok =>
    obtain ⟨⟨rfl, alone | ⟨orderly, session, current, ready⟩⟩, connects⟩ := done
    · exact .cancelled alone.session (alive_of_none alone.orderly.tenure alone.session)
        alone.unasked
    · cases connects with
      | idle idles => cases idles.session.symm.trans current
      | connected _ same _ secured log =>
          cases current.symm.trans same
          obtain ⟨link, held, _⟩ := secured.handover
          exact .connected current ready held (alive_of_link orderly.tenure current held)
            ⟨secured.phase, secured.finished, secured.handover⟩ log

theorem leads_scan_ends {line : String} {consumed : Nat} (settled : start.Settled)
    (resolved : start.registry.resolve (Text.words line) = .run .scan consumed) :
    Act.Leads (fun client => client = start) (runInterruptible (Work.dispatch line))
      (fun ran => ScanEnds start (some ran)) (ScanEnds start none) := by
  refine (leads_runInterruptible fun interrupts => scan_ends_of_dispatch settled resolved).mono
    (fun _ same => same) (fun ran ended came => ?_) fun ended vacant => ?_
  case refine_2 =>
    exact .stopped (.inr rfl) vacant.session (alive_of_none vacant.orderly.tenure vacant.session)
  cases ran with
  | interrupted =>
      have vacant : Vacant start.exitRequested none ended := came
      exact .stopped (.inl rfl) vacant.session
        (alive_of_none vacant.orderly.tenure vacant.session)
  | ended result =>
      cases result with
      | ok outcome => exact came
      | error error =>
          have vacant : Vacant start.exitRequested none ended := came
          exact .failed vacant.session (alive_of_none vacant.orderly.tenure vacant.session)

/-! ## Runs -/

/-- In every run the link that is alive is the one that the current session holds. -/
theorem tenured_runTurns (turns : Nat) :
    Act.Leads Settled (runTurns turns) (fun _ => Tenured) Tenured := by
  have turn : ∀ line, Act.Leads Settled (runLine line) (fun _ => Settled) Tenured :=
    fun line limit client settled =>
      (leads_runLine_settled settled line).mono (fun _ same => same) (fun _ _ rested => rested.1)
        (fun _ tenured => tenured) limit client rfl
  have letsGo : Act.Leads Settled invalidate (fun _ => Tenured) Tenured :=
    .of_snd fun limit client settled =>
      ((invalidate_parts limit client).vacant settled.tenure rfl).orderly.tenure
  have shows : ∀ (client : Client Action) (terminal : Terminal), client.Settled →
      client.timeline.Adds Event.shown terminal.timeline → (client.facing terminal).Settled := by
    intro client terminal settled shows
    have shown : Shown client (client.facing terminal) := ⟨rfl, rfl, shows⟩
    exact shown.settled settled
  exact leads_runTurns turn shows letsGo (fun _ settled => settled.tenure) turns

/-- **One link at a time.** Whatever the user enters, however devices and their links behave and
wherever commands are interrupted: one link at most is alive at any time, and when another one is
asked for none is, and the client holds no session. Only a scan for devices asks for links, once
the user has picked a device. It leaves the client with a new session whose link was handed over
and is the only one alive, or, if anything on the way fails, is cancelled or is interrupted,
without a session and with no link alive. -/
theorem one_link_at_a_time (registry : Registry Action) (settings : Settings)
    (surroundings : Surroundings) (inputs : List Input) (limit : Nat) :
    (∀ front, front <+:
        (run limit (Client.start registry settings surroundings inputs)).2.timeline.log →
      (alive front).length ≤ 1) ∧
    (∀ before address later,
      (run limit (Client.start registry settings surroundings inputs)).2.timeline.log =
        before ++ .opening address :: later → alive before = []) ∧
    (∃ finish : Link → Work Outcome, Work.scan = (do
      match ← Work.pick with
      | .cancelled => return .none
      | .value peer =>
          Work.print ("Connecting to " ++ peer.text)
          let link ← Work.attemptWith (fun error => .session (.transport error)) (openLink peer)
          finish link)) ∧
    ∀ {turns : Nat} {client entered : Client Action} {line : String},
      Prompts limit (Client.start registry settings surroundings inputs) turns client →
      atTerminal (Terminal.readAnswer prompt) limit client = (some (.line line), entered) →
        (∀ consumed, entered.registry.resolve (Text.words line) = .run .scan consumed →
          ScanEnds entered (runInterruptible (Work.dispatch line) limit entered).1
            (runInterruptible (Work.dispatch line) limit entered).2 ∧
          ∀ interrupts moment peer chosen,
            Work.pick.run moment (entered.expecting interrupts) =
              (some (.ok (.value peer)), chosen) →
            chosen.session = none ∧ alive chosen.timeline.log = []) ∧
        ((∀ consumed, entered.registry.resolve (Text.words line) ≠ .run .scan consumed) →
          Unasked entered.timeline (runLine line limit entered).2) := by
  have settled := settled_start registry settings surroundings inputs
  have tenured : (run limit (Client.start registry settings surroundings inputs)).2.Tenured :=
    (tenured_runTurns _).snd settled
  refine ⟨fun front shorter => ?_, fun before address later split => ?_, Work.exists_scan_eq, ?_⟩
  · obtain ⟨held, tenure⟩ := tenured.exists_of_isPrefix shorter
    rw [tenure.alive_eq]
    cases held <;> simp
  · exact (tenured.of_opening split).alive_eq
  · intro turns client entered line prompts read
    have still : entered.Settled := (shown_of_read read).settled (prompts.settled settled)
    refine ⟨fun consumed resolved => ⟨?_, ?_⟩, fun noScan => ?_⟩
    · have ends := leads_scan_ends still resolved limit entered rfl
      rcases ended : runInterruptible (Work.dispatch line) limit entered with ⟨_ | ran, after⟩
      all_goals
        rw [ended] at ends
        exact ends
    · intro interrupts moment peer chosen picked
      have asked : (entered.expecting interrupts).Tenured := still.tenure
      have alone := Work.pick_alone asked rfl moment _ rfl
      rw [picked] at alone
      exact ⟨alone.session, alive_of_none alone.orderly.tenure alone.session⟩
    · have unasked : Unasked entered.timeline entered := .of_log rfl
      have turn := lasting_unasked.leads_runLine unasked fun consumed resolved =>
        absurd resolved (noScan consumed)
      exact turn.snd rfl

/-- The user connects to the device twice. The first link is gone when the second one is asked
for. -/
theorem one_link_at_a_time_again :
    ∃ before later,
      (run 1000 (stallingClient ["scan", "1", "scan", "1"])).2.timeline.log =
        before ++ .opening "AA:BB:CC:DD:EE:01" :: later ∧
      .opened 1 ∈ before ∧ alive before = [] ∧
      ScanEnds (stallingClient ["scan", "1", "scan", "1"]).answered
        (runInterruptible (Work.dispatch "scan") 1000
          (stallingClient ["scan", "1", "scan", "1"]).answered).1
        ((stallingClient ["scan", "1", "scan", "1"]).answered.stopped "scan") := by
  have all := one_link_at_a_time .builtIn .default stallingSurroundings
    (["scan", "1", "scan", "1"].map fun line => ⟨some 0, .line line⟩) 1000
  rw [← stallingClient] at all
  obtain ⟨-, asked, -, turns⟩ := all
  have log :
      let log := (run 1000 (stallingClient ["scan", "1", "scan", "1"])).2.timeline.log
      log = log.take 22 ++ .opening "AA:BB:CC:DD:EE:01" :: log.drop 23 := by
    decide +kernel
  have first : .opened 1 ∈
      (run 1000 (stallingClient ["scan", "1", "scan", "1"])).2.timeline.log.take 22 := by
    decide +kernel
  have resolved : (stallingClient ["scan", "1", "scan", "1"]).answered.registry.resolve
      (Text.words "scan") = .run .scan 1 := by
    decide +kernel
  have read : (atTerminal (Terminal.readAnswer prompt) 1000
      (stallingClient ["scan", "1", "scan", "1"])).1 = some (.line "scan") := by
    decide +kernel
  obtain ⟨scans, -⟩ := turns .first (readAnswer_eq_answered read)
  obtain ⟨ends, -⟩ := scans 1 resolved
  exact ⟨_, _, log, first, asked _ _ _ log, ends⟩

end Client

end Commissioner
