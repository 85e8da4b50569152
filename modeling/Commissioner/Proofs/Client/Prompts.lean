import Commissioner.Proofs.Client.Custody
import Commissioner.Proofs.Client.Interrupts

/-!
# What there is at a prompt

At a prompt of the loop the client has no session, or one that is ready for requests
(`Client.Prompts.settled`). Each turn keeps this: when its command has ended or was interrupted,
the session stays that is ready then, and any other is let go before the next prompt
(`Client.Turn.rests`). What needs a session is refused until there is one again.
-/

set_option autoImplicit false

namespace Commissioner

/-! ## Commands without a session -/

/-- Whether an action is one on the current session. -/
def Action.needsSession : Action → Bool
  | .hello | .commission | .threadStart | .threadStop | .wifiScan | .wifiStatus | .reboot => true
  | .help | .scan | .datasetPrint | .datasetSet | .datasetReset | .exit => false

namespace Work

variable {client : Client Action}

theorem run_needSession_of_none (limit : Nat) (without : client.session = none) :
    needSession.run limit client = (some (.error .notConnected), client) := by
  have read : Work.client.run limit client = (some (.ok client), client) := rfl
  rw [needSession, run_bind, read]
  simp only [Client.isConnected, without, Bool.false_eq_true, if_false]
  rfl

theorem run_request_of_none (record : Tlv) (limit : Nat) (without : client.session = none) :
    (request record).run limit client = (some (.error .notConnected), client) := by
  show Client.onCurrent (Conversation.request record) limit client = _
  simp only [Client.onCurrent, without]

theorem run_perform_of_none {action : Action} (needs : action.needsSession = true)
    (arguments : List String) (limit : Nat) (without : client.session = none) :
    (perform action arguments).run limit client = (some (.error .notConnected), client) := by
  have refused := run_needSession_of_none limit without
  cases action with
  | hello => rw [perform, hello, announced, run_bind, refused]
  | commission => rw [perform, commission, run_bind, refused]
  | threadStart => rw [perform, threadStart, announced, run_bind, refused]
  | threadStop => rw [perform, threadStop, announced, run_bind, refused]
  | wifiScan => rw [perform, wifiScan, run_bind, refused]
  | wifiStatus => rw [perform, wifiStatus, run_bind, refused]
  | reboot => rw [perform, reboot, run_bind, run_request_of_none _ limit without]
  | help | scan | datasetPrint | datasetSet | datasetReset | exit => cases needs

/-- Without a session, a line that needs one is refused, and does nothing else. -/
theorem run_dispatch_of_none {line : String} {action : Action} {consumed : Nat}
    (resolved : client.registry.resolve (Text.words line) = .run action consumed)
    (needs : action.needsSession = true) (limit : Nat) (without : client.session = none) :
    (dispatch line).run limit client = (some (.error .notConnected), client) := by
  rw [run_dispatch resolved limit]
  exact run_perform_of_none needs _ limit without

end Work

namespace Client

variable {leaving : Bool} {client ended after : Client Action}

/-! ## The end of a turn -/

/-- The current session is ready for requests, and holds the link that is alive. -/
structure Settled (client : Client Action) : Prop where
  tenure : client.Tenured
  ready : ∀ session, client.session = some session → session.Ready

theorem Settled.orderly (settled : client.Settled) : client.Orderly client.exitRequested where
  tenure := settled.tenure
  intact session current := by
    obtain ⟨established, holds, -⟩ := settled.ready session current
    exact .inl ⟨established, holds⟩
  leaving := rfl

/-- A session stays that is ready for requests, and any other is let go. -/
structure Rests (ended after : Client Action) : Prop where
  session : after.session = ended.session.filter (fun session => session.Ready)
  tenure : after.Tenured
  leaving : after.exitRequested = ended.exitRequested

namespace Rests

theorem settled (rests : Rests ended after) : after.Settled where
  tenure := rests.tenure
  ready session current := by
    rw [rests.session, Option.filter_eq_some_iff] at current
    exact of_decide_eq_true current.2

/-- What is shown on the way does not matter. -/
theorem of_same {middle : Client Action} (rests : Rests middle after)
    (session : middle.session = ended.session)
    (leaving : middle.exitRequested = ended.exitRequested) : Rests ended after where
  session := session ▸ rests.session
  tenure := rests.tenure
  leaving := rests.leaving.trans leaving

end Rests

/-- A session that is in order is ready, or closed and let go. -/
theorem discardClosed_rests (orderly : Orderly leaving client) (clean : client.Clean)
    (limit : Nat) : Rests client (discardClosed limit client).2 := by
  cases current : client.session with
  | none =>
      rw [discardClosed_of_open (by rw [current]; rfl)]
      exact ⟨by rw [current]; rfl, orderly.tenure, rfl⟩
  | some session =>
      rcases orderly.intact session current with ⟨established, holds⟩ | ⟨closed, unlinked⟩
      · have opened : session.isClosed = false := by
          rw [Session.isClosed, established]
          rfl
        have ready : session.Ready := ⟨established, holds, clean session current⟩
        rw [discardClosed_of_open (by rw [current]; exact opened)]
        refine ⟨?_, orderly.tenure, rfl⟩
        rw [current, Option.filter_some, if_pos (decide_eq_true ready)]
      · have shut : client.session.any Session.isClosed = true := by
          rw [current]
          exact decide_eq_true closed
        have unready : ¬ session.Ready := fun ready => ready.2.1 unlinked
        rw [discardClosed_eq, if_pos shut]
        refine ⟨?_, ?_, rfl⟩
        · rw [current, Option.filter_some, if_neg (mt of_decide_eq_true unready)]
        · -- The link had been let go before.
          have tenure := orderly.tenure
          rw [Tenured, held_of_some current, Session.held_eq_none.mpr unlinked] at tenure
          exact tenure

theorem leads_print (line : String) :
    Act.Leads (fun client => client = ended) (print line) (fun _ => Shown ended)
      (Shown ended) := by
  refine .of_snd ?_
  rintro limit client rfl
  exact ⟨rfl, rfl, Terminal.Silent.print line limit ⟨client.inputs, client.timeline⟩⟩

namespace Shown

theorem orderly (shown : Shown ended client) (orderly : Orderly leaving ended) :
    Orderly leaving client :=
  orderly.adds shown.session shown.leaving (shown.shows.mono fun _ => Event.calm_of_shown)

theorem clean (shown : Shown ended client) (clean : ended.Clean) : client.Clean :=
  fun session current => clean session (shown.session.symm.trans current)

theorem leads_discardClosed (orderly : Orderly leaving ended) (clean : ended.Clean) :
    Act.Leads (Shown ended) (do let _ ← discardClosed) (fun _ => Rests ended) Tenured := by
  have rests : Act.Leads (Shown ended) discardClosed (fun _ => Rests ended) (Rests ended) :=
    .of_snd fun limit client shown =>
      (discardClosed_rests (shown.orderly orderly) (shown.clean clean) limit).of_same
        shown.session shown.leaving
  exact .bind (rests.mono (fun _ shown => shown) (fun _ _ rests => rests)
    fun _ rests => rests.tenure) fun _ => .pure fun _ rests => rests

end Shown

theorem leads_endTurn_of_ended (result : Except CommandError Outcome)
    (orderly : Orderly leaving ended) (clean : ended.Clean) :
    Act.Leads (fun client => client = ended) (endTurn (.ended result)) (fun _ => Rests ended)
      Tenured := by
  have shows : Act.Leads (fun client => client = ended) (showRan (.ended result))
      (fun _ => Shown ended) Tenured := by
    have prints : ∀ line, Act.Leads (fun client => client = ended) (print line)
        (fun _ => Shown ended) Tenured := fun line =>
      (leads_print line).mono (fun _ same => same) (fun _ _ shown => shown)
        fun _ shown => (shown.orderly orderly).tenure
    unfold showRan
    split
    next => exact .pure fun _ same => same ▸ ⟨rfl, rfl, .of_log rfl⟩
    next => exact .bind .state fun _ => .weaken (fun _ read => read.2) (prints _)
    next => exact prints _
    next same => cases same
  exact .bind shows fun _ => Shown.leads_discardClosed orderly clean

/-- After an interrupt a session is let go whose request is unfinished. -/
theorem leads_endTurn_of_interrupted (halted : Halted leaving ended) :
    Act.Leads (fun client => client = ended) (endTurn .interrupted) (fun _ => Rests ended)
      Tenured := by
  have told : Act.Leads (fun client => client = ended) (print Terminal.interruptedLine)
      (fun _ => Shown ended) Tenured :=
    (leads_print _).mono (fun _ same => same) (fun _ _ shown => shown) fun _ shown =>
      halted.tenure.adds shown.session (shown.shows.mono fun _ => Event.calm_of_shown)
  -- A session whose request is finished is in order, like after a command that has ended.
  by_cases clean : ended.Clean
  case pos =>
    have orderly : Orderly leaving ended :=
      ⟨halted.tenure, fun session current => halted.intact session current (clean session current),
        halted.leaving⟩
    have stays : Act.Leads (Shown ended) discardUnfinished (fun _ => Shown ended) Tenured := by
      intro limit client shown
      rw [discardUnfinished_of_clean (shown.clean clean)]
      exact shown
    exact .bind (.bind told fun _ => .bind stays fun _ => .pure fun _ shown => shown)
      fun _ => Shown.leads_discardClosed orderly clean
  case neg =>
    simp only [Clean, not_forall, Bool.not_eq_false] at clean
    obtain ⟨session, current, unfinished⟩ := clean
    have gone : Act.Leads (Shown ended) discardUnfinished (fun _ => Vacant leaving none)
        (Vacant leaving none) := by
      refine .of_snd fun limit client shown => ?_
      have parts := discardUnfinished_parts (shown.session.trans current) unfinished limit
      exact parts.vacant (halted.tenure.adds shown.session
        (shown.shows.mono fun _ => Event.calm_of_shown)) (shown.leaving.trans halted.leaving)
    have rests : Act.Leads (Vacant leaving none) discardClosed (fun _ => Rests ended)
        (Rests ended) := by
      refine .of_snd fun limit client vacant => ?_
      have unready : ¬ session.Ready := fun ready => by
        cases unfinished.symm.trans ready.2.2
      rw [discardClosed_of_open (by rw [vacant.session]; rfl)]
      refine ⟨?_, vacant.orderly.tenure, vacant.leaving.trans halted.leaving.symm⟩
      rw [vacant.session, current, Option.filter_some, if_neg (mt of_decide_eq_true unready)]
    have letsGo : Act.Leads (Shown ended) (do let _ ← discardUnfinished)
        (fun _ => Vacant leaving none) Tenured :=
      .bind (gone.mono (fun _ shown => shown) (fun _ _ vacant => vacant)
        fun _ vacant => vacant.orderly.tenure) fun _ => .pure fun _ vacant => vacant
    exact .bind (.bind told fun _ => letsGo) fun _ =>
      .bind (rests.mono (fun _ vacant => vacant) (fun _ _ rests => rests)
        fun _ rests => rests.tenure) fun _ => .pure fun _ rests => rests

/-! ## Turns -/

/-- How the command of a turn came out. -/
inductive Came (leaving : Bool) (start : Client Action) : Ran → Client Action → Prop where
  | ended {result : Except CommandError Outcome} {client : Client Action}
      (orderly : client.Orderly leaving) (clean : client.Clean) :
      Came leaving start (.ended result) client
  | left {client : Client Action} (leaves : Leaves start client) :
      Came leaving start (.ended (.ok .none)) client
  | interrupted {client : Client Action} (halted : client.Halted leaving) :
      Came leaving start .interrupted client

variable {start : Client Action}

theorem leads_came (settled : start.Settled) (line : String) :
    Act.Leads (fun client => client = start) (runInterruptible (Work.dispatch line))
      (Came start.exitRequested start) (Halted start.exitRequested) := by
  have orders : Act.Leads (fun client => client = start) (runInterruptible (Work.dispatch line))
      (ranTo (fun outcome client => client.Orderly start.exitRequested ∨
        (outcome = .none ∧ Leaves start client)) (Orderly start.exitRequested)
        (Halted start.exitRequested))
      (Halted start.exitRequested) := by
    refine leads_runInterruptible fun interrupts => ?_
    have still : (start.expecting interrupts).Orderly start.exitRequested :=
      settled.orderly.adds rfl rfl (.of_log rfl)
    exact (Work.dispatch_orderly still line).mono (fun _ same => same)
      (fun _ _ came => came.imp_right fun left => ⟨left.1, left.2.session, left.2.log, left.2.asked⟩)
      (fun _ orderly => orderly) fun _ halted => halted
  have tidies := leads_command (fun session current => (settled.ready session current).2.2) line
  refine (orders.and tidies).mono (fun _ same => same) (fun ran after both => ?_)
    fun _ both => both.1
  obtain ⟨order, tidy⟩ := both
  cases ran with
  | interrupted => exact .interrupted order
  | ended result =>
      cases result with
      | error => exact .ended order (Tidy.clean tidy)
      | ok outcome =>
          rcases order with orderly | ⟨rfl, leaves⟩
          · exact .ended orderly (Tidy.clean tidy)
          · exact .left leaves

/-- When the user has left there is nothing to show and no session to let go. -/
theorem endTurn_of_left (without : ended.session = none) (limit : Nat) :
    endTurn (.ended (.ok .none)) limit ended = (some (), ended) := by
  have shown : showRan (.ended (.ok .none)) limit ended = (some (), ended) := rfl
  rw [endTurn, Act.bind_apply, shown]
  simp only
  rw [Act.bind_apply, discardClosed_eq, without]
  rfl

theorem Came.leads_endTurn {ran : Ran} (came : Came leaving start ran ended)
    (tenured : start.Tenured) :
    Act.Leads (fun client => client = ended) (endTurn ran)
      (fun _ after => Rests ended after ∧ (after.exitRequested = leaving ∨ Leaves start after))
      Tenured := by
  cases came with
  | ended orderly clean =>
      exact (leads_endTurn_of_ended _ orderly clean).mono (fun _ same => same)
        (fun _ _ rests => ⟨rests, .inl (rests.leaving.trans orderly.leaving)⟩)
        fun _ tenured => tenured
  | interrupted halted =>
      exact (leads_endTurn_of_interrupted halted).mono (fun _ same => same)
        (fun _ _ rests => ⟨rests, .inl (rests.leaving.trans halted.leaving)⟩)
        fun _ tenured => tenured
  | left leaves =>
      rintro limit client rfl
      rw [endTurn_of_left leaves.session limit]
      refine ⟨⟨?_, leaves.tenured tenured, rfl⟩, .inr leaves⟩
      rw [leaves.session]
      rfl

/-- **A turn of the loop leaves a session that is ready for requests, or none.** -/
theorem leads_runLine_settled (settled : start.Settled) (line : String) :
    Act.Leads (fun client => client = start) (runLine line)
      (fun _ after => after.Settled ∧
        (after.exitRequested = start.exitRequested ∨ Leaves start after))
      Tenured := by
  rw [runLine_eq]
  refine .bind ((leads_came settled line).mono (fun _ same => same) (fun _ _ came => came)
    fun _ halted => halted.tenure) fun ran => fun limit ended came => ?_
  have ends := came.leads_endTurn settled.tenure
  exact ends.mono (fun _ same => same)
    (fun _ _ rested => ⟨rested.1.settled, rested.2⟩)
    (fun _ tenured => tenured) limit ended rfl

/-! ## Prompts -/

/-- Taking an answer at a prompt shows the prompt, and no more. -/
theorem shown_of_read {limit : Nat} {answer : Option Answer} {entered : Client Action}
    (read : atTerminal (Terminal.readAnswer prompt) limit client = (answer, entered)) :
    Shown client entered := by
  have silent := Terminal.Silent.readAnswer prompt limit ⟨client.inputs, client.timeline⟩
  unfold atTerminal at read
  cases read
  exact ⟨rfl, rfl, silent⟩

theorem Shown.settled (shown : Shown ended client) (settled : ended.Settled) :
    client.Settled where
  tenure := (shown.orderly settled.orderly).tenure
  ready session current := settled.ready session (shown.session.symm.trans current)

theorem settled_start (registry : Registry Action) (settings : Settings)
    (surroundings : Surroundings) (inputs : List Input) :
    (Client.start registry settings surroundings inputs).Settled where
  tenure := .nil
  ready _ current := by cases current

/-- At every prompt there is a session that is ready for requests, or none. -/
theorem Prompts.settled {limit turns : Nat} (prompts : Prompts limit start turns client)
    (settled : start.Settled) : client.Settled := by
  induction prompts with
  | first => exact settled
  | next _ _ read ran ih =>
      have entered := (shown_of_read read).settled ih
      exact ((leads_runLine_settled entered _).of_value rfl ran).1

/-- A turn of the loop, from the prompt at which the user enters a line, over where its command
ended or was interrupted, to the next prompt. -/
structure Turn (limit : Nat) (client : Client Action) (line : String) (entered : Client Action)
    (ran : Ran) (ended after : Client Action) : Prop where
  stays : client.exitRequested = false
  read : atTerminal (Terminal.readAnswer prompt) limit client = (some (.line line), entered)
  ran : runInterruptible (Work.dispatch line) limit entered = (some ran, ended)
  ended : runLine line limit entered = (some (), after)

/-- A line that leads to the next prompt has a command that ended or was interrupted. -/
theorem exists_turn {limit : Nat} {line : String} {entered : Client Action}
    (stays : client.exitRequested = false)
    (read : atTerminal (Terminal.readAnswer prompt) limit client = (some (.line line), entered))
    (ended : runLine line limit entered = (some (), after)) :
    ∃ ran middle, Turn limit client line entered ran middle after := by
  rcases carried : runInterruptible (Work.dispatch line) limit entered with ⟨_ | ran, middle⟩
  case none =>
    rw [runLine_eq, Act.bind_apply, carried] at ended
    cases ended
  case some => exact ⟨ran, middle, stays, read, carried, ended⟩

theorem Turn.endTurn_eq {limit : Nat} {line : String} {entered : Client Action} {ran : Ran}
    (turn : Turn limit client line entered ran ended after) :
    endTurn ran limit ended = (some (), after) := by
  have done := turn.ended
  rw [runLine_eq, Act.bind_apply, turn.ran] at done
  exact done

theorem Turn.rests {limit : Nat} {line : String} {entered : Client Action} {ran : Ran}
    (turn : Turn limit client line entered ran ended after)
    (settled : client.Settled) : Rests ended after := by
  have still := (shown_of_read turn.read).settled settled
  have came := (leads_came still line).of_value rfl turn.ran
  exact ((came.leads_endTurn still.tenure).of_value rfl turn.endTurn_eq).1

/-- A command that needs a session is refused when there is none, and does nothing else. -/
theorem exists_refused {line : String} {action : Action} {consumed : Nat}
    (resolved : client.registry.resolve (Text.words line) = .run action consumed)
    (needs : action.needsSession = true) (limit : Nat) (without : client.session = none) :
    ∃ interrupts, runInterruptible (Work.dispatch line) limit client =
      (some (.ended (.error .notConnected)), client.expecting interrupts) := by
  have refused : ∀ interrupts moment,
      (Work.dispatch line).run moment (client.expecting interrupts) =
        (some (.error .notConnected), client.expecting interrupts) := by
    intro interrupts moment
    have same : (client.expecting interrupts).registry.resolve (Text.words line) =
        .run action consumed := resolved
    have still : (client.expecting interrupts).session = none := without
    exact Work.run_dispatch_of_none same needs moment still
  rcases taken : runInterruptible.takeFirst client.surroundings.interrupts with
    ⟨_ | delay, interrupts⟩
  case none =>
    refine ⟨interrupts, ?_⟩
    rw [runInterruptible_of_none _ limit taken, refused]
  case some =>
    refine ⟨interrupts, ?_⟩
    rw [runInterruptible_of_some _ limit taken, refused]

/-- **What there is at a prompt.** Whatever the user enters, however devices and their links
behave and wherever commands are interrupted: at each prompt of the loop there is no session, or
one that is established, holds its link and has no request unfinished. A session that is not so
when a command has ended or was interrupted is let go before the next prompt, and what needs a
session is then refused and does nothing else. -/
theorem ready_at_prompts {registry : Registry Action} {settings : Settings}
    {surroundings : Surroundings} {inputs : List Input} {limit turns : Nat}
    (prompts : Prompts limit (Client.start registry settings surroundings inputs) turns client) :
    run limit (Client.start registry settings surroundings inputs) = runTurns turns limit client ∧
      (∀ session, client.session = some session → session.Ready) ∧
      ∀ {line : String} {entered : Client Action} {ran : Ran} {ended after : Client Action},
        Turn limit client line entered ran ended after →
          after.session = ended.session.filter (fun session => session.Ready) ∧
          (after.session = none → ∀ {next : String} {asked : Client Action} {action : Action}
            {consumed : Nat},
            atTerminal (Terminal.readAnswer prompt) limit after = (some (.line next), asked) →
            asked.registry.resolve (Text.words next) = .run action consumed →
            action.needsSession = true →
              ∃ interrupts, runInterruptible (Work.dispatch next) limit asked =
                (some (.ended (.error .notConnected)), asked.expecting interrupts)) := by
  have settled := prompts.settled (settled_start registry settings surroundings inputs)
  refine ⟨prompts.run_eq, settled.ready, fun turn => ⟨(turn.rests settled).session, ?_⟩⟩
  intro without next asked action consumed read resolved needs
  have still : asked.session = none := (shown_of_read read).session.trans without
  exact exists_refused resolved needs limit still

/-- The device accepts three octets of a greeting, which is interrupted then. The session is let
go before the next prompt, and the greeting that the user asks for there is refused. -/
theorem ready_at_prompts_interrupted :
    ∃ asked interrupts,
      atTerminal (Terminal.readAnswer prompt) 1000
        ((connectedClient ["hello", "hello"]).answered.passed "hello") =
          (some (.line "hello"), asked) ∧
      runInterruptible (Work.dispatch "hello") 1000 asked =
        (some (.ended (.error .notConnected)), asked.expecting interrupts) := by
  have prompts := prompts_connected ["hello", "hello"] (by decide +kernel)
  have turn := interruptedTurn_connected "hello" ["hello"] (by decide +kernel) (by decide +kernel)
    (by decide +kernel) (by decide +kernel) (by decide +kernel)
  have whole : Turn 1000 (connectedClient ["hello", "hello"]) "hello" _ .interrupted _ _ :=
    ⟨by decide +kernel, readAnswer_eq_answered (by decide +kernel), turn.ran, turn.ended⟩
  have read : atTerminal (Terminal.readAnswer prompt) 1000
      ((connectedClient ["hello", "hello"]).answered.passed "hello") =
        (some (.line "hello"),
          ((connectedClient ["hello", "hello"]).answered.passed "hello").answered) :=
    readAnswer_eq_answered (by decide +kernel)
  have greets : ((connectedClient ["hello", "hello"]).answered.passed
      "hello").answered.registry.resolve (Text.words "hello") = .run .hello 1 := by
    decide +kernel
  obtain ⟨-, -, turns⟩ := ready_at_prompts prompts
  obtain ⟨-, refuses⟩ := turns whole
  obtain ⟨interrupts, refused⟩ := refuses (by decide +kernel) read greets rfl
  exact ⟨_, interrupts, read, refused⟩

end Client

end Commissioner
