import Commissioner.Client.Loop
import Commissioner.Proofs.Client.Steps

/-!
# What turns of the loop are made of

A turn of the loop carries out a line, which the user may interrupt, and then shows what came of
it and lets go of a session that is of no more use (`Client.endTurn`). What survives that the user
is shown something, all that an established session does and that a session is let go, lasts in
every turn whose line is no scan for devices (`Client.Lasting`), or stores no dataset either
(`Client.Enduring`). What turns keep, runs keep
(`Client.leads_runTurns`).
-/

set_option autoImplicit false

namespace Commissioner

namespace Client

/-! ## Turns of the loop -/

/-- A session that is closed is let go, and nothing else changes. -/
theorem discardClosed_eq (limit : Nat) (client : Client Action) :
    discardClosed limit client =
      if client.session.any Session.isClosed then (some true, { client with session := none })
      else (some false, client) := by
  unfold discardClosed Act.exchange
  cases held : client.session with
  | none => simp only [held, Option.any_none]; rfl
  | some session =>
      simp only [held, Option.any_some]
      split
      next => rfl
      next => rfl

/-- What is left to do once a command has ended or was interrupted. -/
def endTurn (ran : Ran) : Act (Client Action) Unit := do
  showRan ran
  let _ ← discardClosed

theorem runLine_eq (line : String) :
    runLine line = runInterruptible (Work.dispatch line) >>= endTurn :=
  rfl

/-- A client with the user's interrupts of the commands to come. -/
def expecting (client : Client Action) (interrupts : List (Option Nat)) : Client Action :=
  { client with surroundings := { client.surroundings with interrupts := interrupts } }

/-- A command that the user does not interrupt runs to its own end. -/
theorem runInterruptible_of_none (work : Work Outcome) (limit : Nat) {client : Client Action}
    {interrupts : List (Option Nat)}
    (taken : runInterruptible.takeFirst client.surroundings.interrupts = (none, interrupts)) :
    runInterruptible work limit client =
      match work.run limit (client.expecting interrupts) with
      | (some result, client) => (some (.ended result), client)
      | (none, client) => (none, client) := by
  unfold runInterruptible
  rw [taken]
  rfl

/-- A command that the user interrupts is dropped when it still waits then. -/
theorem runInterruptible_of_some (work : Work Outcome) (limit : Nat) {client : Client Action}
    {delay : Nat} {interrupts : List (Option Nat)}
    (taken : runInterruptible.takeFirst client.surroundings.interrupts =
      (some delay, interrupts)) :
    runInterruptible work limit client =
      match work.run (min (client.timeline.now + delay) limit) (client.expecting interrupts) with
      | (some result, client) => (some (.ended result), client)
      | (none, after) =>
          if client.timeline.now + delay ≤ limit then (some .interrupted, after)
          else (none, after) := by
  unfold runInterruptible
  rw [taken]
  rfl

/-- A command that may be interrupted is carried out up to some moment. -/
theorem exists_moment (work : Work Outcome) (limit : Nat) (client : Client Action) :
    ∃ interrupts moment, (runInterruptible work limit client).2 =
        (work.run moment (client.expecting interrupts)).2 ∧
      ∀ result, (runInterruptible work limit client).1 = some (.ended result) →
        (work.run moment (client.expecting interrupts)).1 = some result := by
  rcases taken : runInterruptible.takeFirst client.surroundings.interrupts with
    ⟨_ | delay, interrupts⟩
  case none =>
    refine ⟨interrupts, limit, ?_⟩
    rw [runInterruptible_of_none work limit taken]
    rcases work.run limit (client.expecting interrupts) with ⟨_ | result, after⟩
    case none => exact ⟨rfl, nofun⟩
    case some => exact ⟨rfl, fun _ same => by cases same; rfl⟩
  case some =>
    refine ⟨interrupts, min (client.timeline.now + delay) limit, ?_⟩
    rw [runInterruptible_of_some work limit taken]
    rcases work.run (min (client.timeline.now + delay) limit) (client.expecting interrupts) with
      ⟨_ | result, after⟩
    case none =>
      simp only
      split
      next => exact ⟨rfl, nofun⟩
      next => exact ⟨rfl, nofun⟩
    case some => exact ⟨rfl, fun _ same => by cases same; rfl⟩

/-- What holds once a command has ended, or was interrupted. -/
def ranTo (after : Outcome → Client Action → Prop) (failed dropped : Client Action → Prop) :
    Ran → Client Action → Prop
  | .ended result => Act.either after failed result
  | .interrupted => dropped

/-- A command that may be interrupted leads to what it leads to by itself. -/
theorem leads_runInterruptible {start : Client Action} {work : Work Outcome}
    {after : Outcome → Client Action → Prop} {failed dropped : Client Action → Prop}
    (leads : ∀ interrupts, Work.Leads (fun client => client = start.expecting interrupts) work
      after failed dropped) :
    Act.Leads (fun client => client = start) (runInterruptible work) (ranTo after failed dropped)
      dropped := by
  rintro limit client rfl
  cases taken : runInterruptible.takeFirst client.surroundings.interrupts with
  | mk interrupt interrupts =>
    cases interrupt with
    | none =>
        have done := leads interrupts limit _ rfl
        rw [runInterruptible_of_none work limit taken]
        rcases ended : work.run limit (client.expecting interrupts) with ⟨_ | result, between⟩
        all_goals
          rw [ended] at done
          exact done
    | some delay =>
        have done := leads interrupts (min (client.timeline.now + delay) limit) _ rfl
        rw [runInterruptible_of_some work limit taken]
        rcases ended : work.run (min (client.timeline.now + delay) limit)
          (client.expecting interrupts) with ⟨_ | result, between⟩
        case some =>
          rw [ended] at done
          exact done
        case none =>
          rw [ended] at done
          by_cases early : client.timeline.now + delay ≤ limit
          case pos =>
            simp only [if_pos early]
            exact done
          case neg =>
            simp only [if_neg early]
            exact done

/-! ## What lasts -/

/-- What holds of a client survives that the user is shown something, all that an established
session does, and that a session is let go. -/
structure Enduring (kept : Client Action → Prop) : Prop where
  shows : ∀ client terminal, kept client → client.timeline.Quiet terminal.timeline →
    kept (client.facing terminal)
  moves : ∀ client session talk taken written, kept client → client.session = some session →
    session.phase = .established →
      Conversation.Moves ⟨session, client.timeline⟩ taken written talk →
        kept (client.holding talk)
  letsGo : Act.Keeps kept invalidate
  without : ∀ client : Client Action, kept client → kept { client with session := none }
  leave : ∀ client : Client Action, kept client → kept { client with exitRequested := true }
  expecting : ∀ (client : Client Action) interrupts, kept client → kept (client.expecting interrupts)

/-- It survives as well that another dataset becomes current. -/
structure Lasting (kept : Client Action → Prop) : Prop extends Enduring kept where
  store : ∀ (dataset : Dataset) (client : Client Action),
    kept client → kept { client with dataset := dataset }

variable {kept : Client Action → Prop}

namespace Enduring

theorem steady (enduring : Enduring kept) : Work.Steady kept kept :=
  .of_moves enduring.shows enduring.moves

/-- It endures every command but a scan for devices, and those that store a dataset. -/
theorem keeps_perform (enduring : Enduring kept) {action : Action} (noScan : action ≠ .scan)
    (arguments : List String)
    (stores : action.storesDataset = true →
      Work.Keeps kept kept (Work.perform action arguments)) :
    Work.Keeps kept kept (Work.perform action arguments) := by
  by_cases isStatus : action = .wifiStatus
  case pos =>
    subst isStatus
    refine enduring.steady.leads_wifiStatus (fun line => enduring.steady.print line)
      (fun _ holds => holds) (fun _ holds => holds) (Act.Leads.either ?_)
    exact .onCurrent_of_moves (Conversation.exists_moves_send _) enduring.moves
  by_cases isExit : action = .exit
  case pos =>
    subst isExit
    exact .bind (Work.Leads.always enduring.letsGo) fun _ =>
      .bind (Work.Leads.always (.change enduring.leave)) fun _ => .pure _
  exact enduring.steady.keeps_perform noScan isStatus isExit arguments stores

theorem keeps_endTurn (enduring : Enduring kept) (ran : Ran) : Act.Keeps kept (endTurn ran) := by
  have prints : ∀ line, Act.Keeps kept (print line) := fun line =>
    .atTerminal_of_silent (.print line) enduring.shows
  have discards : Act.Keeps kept discardUnfinished := by
    refine .bind .state fun read => .weaken (fun _ holds => holds.2) ?_
    split
    next =>
      split
      next => exact .bind enduring.letsGo fun _ => .pure fun _ holds => holds
      next => exact .pure fun _ holds => holds
    next => exact .pure fun _ holds => holds
  have shows : Act.Keeps kept (showRan ran) := by
    unfold showRan
    split
    next => exact .pure fun _ holds => holds
    next => exact .bind .state fun _ => .weaken (fun _ holds => holds.2) (prints _)
    next => exact prints _
    next => exact .bind (prints _) fun _ => .bind discards fun _ => .pure fun _ holds => holds
  have closes : Act.Keeps kept discardClosed := by
    refine .of_snd fun limit client holds => ?_
    rw [discardClosed_eq]
    split
    next => exact enduring.without client holds
    next => exact holds
  exact .bind shows fun _ => .bind closes fun _ => .pure fun _ holds => holds

/-- It endures a line, if it does when the line is a scan for devices or stores a dataset. -/
theorem leads_line (enduring : Enduring kept) {start : Client Action} {line : String}
    (holds : kept start)
    (scans : ∀ consumed, start.registry.resolve (Text.words line) = .run .scan consumed →
      ∀ client, kept client →
        Work.Leads (fun other => other = client) Work.scan (fun _ => kept) kept kept)
    (stores : ∀ action consumed,
      start.registry.resolve (Text.words line) = .run action consumed →
        action.storesDataset = true →
          Work.Keeps kept kept (Work.perform action ((Text.words line).drop consumed))) :
    Act.Leads (fun client => client = start) (runInterruptible (Work.dispatch line))
      (fun _ => kept) kept := by
  have carries : ∀ interrupts, Work.Leads (fun client => client = start.expecting interrupts)
      (Work.dispatch line) (fun _ => kept) kept kept := by
    intro interrupts
    have still := enduring.expecting start interrupts holds
    refine Work.leads_dispatch (fun action consumed resolved => ?_) still
      (fun line => enduring.steady.print line _ still) still
    by_cases isScan : action = .scan
    case pos =>
      subst isScan
      exact scans consumed resolved _ still
    case neg =>
      exact (enduring.keeps_perform isScan _ (stores action consumed resolved)).weaken
        fun _ same => same ▸ still
  refine (leads_runInterruptible carries).mono (fun _ same => same) (fun ran client came => ?_)
    fun _ holds => holds
  cases ran with
  | interrupted => exact came
  | ended result =>
      cases result with
      | ok => exact came
      | error => exact came

end Enduring

namespace Lasting

theorem stable (lasting : Lasting kept) : Work.Stable kept kept :=
  ⟨lasting.steady, lasting.store⟩

/-- It lasts in a turn of the loop, if it does when the line is a scan for devices. -/
theorem leads_runLine (lasting : Lasting kept) {start : Client Action} {line : String}
    (holds : kept start)
    (scans : ∀ consumed, start.registry.resolve (Text.words line) = .run .scan consumed →
      ∀ client, kept client →
        Work.Leads (fun other => other = client) Work.scan (fun _ => kept) kept kept) :
    Act.Leads (fun client => client = start) (runLine line) (fun _ => kept) kept := by
  rw [runLine_eq]
  exact .bind (lasting.leads_line holds scans fun _ _ _ stores => lasting.stable.keeps_stores stores _)
    lasting.keeps_endTurn

end Lasting

/-! ## Runs -/

/-- What turns of the loop keep leads a run to what it leads to when a session is let go, or when
the run just stops. -/
theorem leads_runTurns {kept ended : Client Action → Prop}
    (turn : ∀ line, Act.Leads kept (runLine line) (fun _ => kept) ended)
    (shows : ∀ client terminal, kept client →
      client.timeline.Adds Event.shown terminal.timeline → kept (client.facing terminal))
    (letsGo : Act.Leads kept invalidate (fun _ => ended) ended)
    (stops : ∀ client, kept client → ended client) (turns : Nat) :
    Act.Leads kept (runTurns turns) (fun _ => ended) ended := by
  have leaves : Act.Leads kept
      (do invalidate; return (Except.ok () : Except CommandError Unit)) (fun _ => ended) ended :=
    .bind letsGo fun _ => .pure fun _ holds => holds
  have reads : Act.Leads kept (atTerminal (Terminal.readAnswer prompt)) (fun _ => kept) ended :=
    (Act.Leads.atTerminal_of_shown (.readAnswer prompt) shows).mono (fun _ holds => holds)
      (fun _ _ holds => holds) stops
  induction turns with
  | zero => exact fun _ client holds => stops client holds
  | succ turns ih =>
      refine .bind .state fun _ => .weaken (fun _ holds => holds.2) ?_
      split
      next => exact leaves
      next =>
        refine .bind reads fun answer => ?_
        cases answer with
        | line line => exact .bind (turn line) fun _ => ih
        | interrupted | finished => exact leaves
        | fault => exact .pure stops

end Client

end Commissioner
