import Commissioner.Client.Work
import Commissioner.Proofs.Session.Moves

/-!
# What commands are made of

A command is followed along its steps: from clients of which something holds it leads to
clients of which something else holds, and these differ with how it ends (`Work.Leads`).
It may come to a value, fail, or be dropped where it waits.

All commands but three are made of a few kinds of steps: they print, ask, store a dataset,
and carry out requests and receive batches on the current session. What each of these
keeps, each such command keeps (`Work.Stable`).
-/

set_option autoImplicit false

namespace Commissioner

/-! ## Acts -/

namespace Act

variable {σ α β ε : Type}

/-- From states of which `before` holds, an act leads to states of which `after` holds with
its value, or of which `dropped` holds when it is dropped. -/
def Leads (before : σ → Prop) (act : Act σ α) (after : α → σ → Prop) (dropped : σ → Prop) :
    Prop :=
  ∀ limit state, before state →
    match act limit state with
    | (some value, state) => after value state
    | (none, state) => dropped state

/-- What holds before an act holds after it, also when it is dropped. -/
abbrev Keeps (kept : σ → Prop) (act : Act σ α) : Prop :=
  Leads kept act (fun _ => kept) kept

/-- What holds when an act that may fail has come to an end. -/
def either (after : α → σ → Prop) (failed : σ → Prop) : Except ε α → σ → Prop
  | .ok value => after value
  | .error _ => failed

namespace Leads

variable {before before' : σ → Prop} {after after' : α → σ → Prop} {dropped dropped' : σ → Prop}

theorem pure {value : α} (ends : ∀ state, before state → after value state) :
    Leads before (Pure.pure value) after dropped :=
  fun _ state holds => ends state holds

theorem change {f : σ → σ} {after : Unit → σ → Prop}
    (ends : ∀ state, before state → after () (f state)) :
    Leads before (Act.change f) after dropped :=
  fun _ state holds => ends state holds

theorem exchange {f : σ → α × σ} (ends : ∀ state, before state → after (f state).1 (f state).2) :
    Leads before (Act.exchange f) after dropped :=
  fun _ state holds => ends state holds

/-- The state that is read is the one that there is. -/
theorem state : Leads before Act.state (fun value state => value = state ∧ before state) dropped :=
  fun _ _ holds => ⟨rfl, holds⟩

theorem bind {middle : α → σ → Prop} {after : β → σ → Prop} {first : Act σ α}
    {next : α → Act σ β} (now : Leads before first middle dropped)
    (later : ∀ value, Leads (middle value) (next value) after dropped) :
    Leads before (first >>= next) after dropped := by
  intro limit state holds
  have begun := now limit state holds
  rw [bind_apply]
  rcases ended : first limit state with ⟨_ | value, between⟩
  case none =>
    rw [ended] at begun
    exact begun
  case some =>
    rw [ended] at begun
    exact later value limit between begun

theorem mono {act : Act σ α} (leads : Leads before act after dropped)
    (weaker : ∀ state, before' state → before state)
    (ends : ∀ value state, after value state → after' value state)
    (drops : ∀ state, dropped state → dropped' state) : Leads before' act after' dropped' := by
  intro limit state holds
  have done := leads limit state (weaker state holds)
  rcases ended : act limit state with ⟨_ | value, between⟩
  case none =>
    rw [ended] at done
    exact drops between done
  case some =>
    rw [ended] at done
    exact ends value between done

theorem weaken {act : Act σ α} (weaker : ∀ state, before' state → before state)
    (leads : Leads before act after dropped) : Leads before' act after dropped :=
  fun limit state holds => leads limit state (weaker state holds)

/-- What an act leads to in two respects. -/
theorem and {act : Act σ α} (first : Leads before act after dropped)
    (second : Leads before act after' dropped') :
    Leads before act (fun value state => after value state ∧ after' value state)
      (fun state => dropped state ∧ dropped' state) := by
  intro limit state holds
  have one := first limit state holds
  have other := second limit state holds
  rcases ended : act limit state with ⟨_ | value, between⟩
  all_goals
    rw [ended] at one other
    exact ⟨one, other⟩

/-- What holds in the end holds whatever an act comes to. -/
theorem of_snd {act : Act σ α} {kept : σ → Prop}
    (keeps : ∀ limit state, before state → kept (act limit state).2) :
    Leads before act (fun _ => kept) kept := by
  intro limit state holds
  have done := keeps limit state holds
  rcases ended : act limit state with ⟨_ | value, between⟩
  all_goals
    rw [ended] at done
    exact done

/-- What an act leads to whatever it comes to. -/
theorem snd {act : Act σ α} {kept : σ → Prop} (leads : Leads before act (fun _ => kept) kept)
    {limit : Nat} {start : σ} (holds : before start) : kept (act limit start).2 := by
  have done := leads limit start holds
  rcases ended : act limit start with ⟨_ | value, between⟩
  all_goals
    rw [ended] at done
    exact done

/-- What an act leads to when it comes to a value. -/
theorem of_value {act : Act σ α} {limit : Nat} {start between : σ} {value : α}
    (leads : Leads before act after dropped) (holds : before start)
    (ended : act limit start = (some value, between)) : after value between := by
  have done := leads limit start holds
  rw [ended] at done
  exact done

/-- What holds whatever an act comes to. -/
theorem either {act : Act σ (Except ε α)} {kept : σ → Prop}
    (leads : Leads before act (fun _ => kept) dropped) :
    Leads before act (Act.either (fun _ => kept) kept) dropped := by
  refine leads.mono (fun _ holds => holds) (fun result _ holds => ?_) fun _ holds => holds
  cases result with
  | ok => exact holds
  | error => exact holds

end Leads

end Act

/-! ## The client -/

/-- A client with an event noted. -/
def Client.noted (client : Client Action) (event : Event) : Client Action :=
  { client with timeline := client.timeline.note event }

/-- A client with what became of its session. -/
def Client.holding (client : Client Action) (talk : Conversation) : Client Action :=
  { client with session := some talk.session, timeline := talk.timeline }

/-- A client with what became of its terminal. -/
def Client.facing (client : Client Action) (terminal : Terminal) : Client Action :=
  { client with inputs := terminal.inputs, timeline := terminal.timeline }

/-- An act at the terminal leaves the client with what it made of the terminal. -/
theorem Act.Leads.atTerminal {β : Type} {before dropped : Client Action → Prop}
    {after : β → Client Action → Prop} {act : Act Terminal β}
    (runs : ∀ client, before client →
      Act.Leads (fun terminal => terminal = ⟨client.inputs, client.timeline⟩) act
        (fun value terminal => after value (client.facing terminal))
        (fun terminal => dropped (client.facing terminal))) :
    Act.Leads before (Client.atTerminal act) after dropped := by
  intro limit client holds
  have done := runs client holds limit _ rfl
  unfold Client.atTerminal
  rcases ended : act limit ⟨client.inputs, client.timeline⟩ with ⟨_ | value, terminal⟩
  case none =>
    rw [ended] at done
    exact done
  case some =>
    rw [ended] at done
    exact done

/-- An act on the current session leaves the client with what it made of the session, and
does nothing when there is no established one. -/
theorem Act.Leads.onCurrent {α : Type} {before dropped : Client Action → Prop}
    {after : Except CommandError α → Client Action → Prop}
    {act : Act Conversation (Except SessionError α)}
    (uses : ∀ client session, before client → client.session = some session →
      session.phase = .established →
        Act.Leads (fun talk => talk = ⟨session, client.timeline⟩) act
          (fun result talk => after (result.mapError .session) (client.holding talk))
          (fun talk => dropped (client.holding talk)))
    (refuses : ∀ client, before client → after (.error .notConnected) client) :
    Act.Leads before (Client.onCurrent act) after dropped := by
  intro limit client holds
  unfold Client.onCurrent
  cases current : client.session with
  | none => exact refuses client holds
  | some session =>
      simp only
      by_cases established : session.isEstablished = true
      case neg =>
        rw [if_neg established]
        exact refuses client holds
      case pos =>
        have used := uses client session holds current (of_decide_eq_true established) limit _ rfl
        rw [if_pos established]
        rcases ended : act limit ⟨session, client.timeline⟩ with ⟨_ | result, talk⟩
        case none =>
          rw [ended] at used
          exact used
        case some =>
          rw [ended] at used
          exact used

/-- What the moves of an established session keep, an act on the current session keeps that
comes down to moves. -/
theorem Act.Leads.onCurrent_of_moves {α : Type} {kept : Client Action → Prop}
    {act : Act Conversation (Except SessionError α)}
    (moves : ∀ limit talk, ∃ taken written,
      Conversation.Moves talk taken written (act limit talk).2)
    (keeps : ∀ client session talk taken written, kept client → client.session = some session →
      session.phase = .established →
        Conversation.Moves ⟨session, client.timeline⟩ taken written talk →
          kept (client.holding talk)) :
    Act.Leads kept (Client.onCurrent act) (fun _ => kept) kept := by
  refine .onCurrent (fun client session holds current established => .of_snd ?_)
    fun _ holds => holds
  rintro limit talk rfl
  obtain ⟨taken, written, moved⟩ := moves limit ⟨session, client.timeline⟩
  exact keeps client session _ taken written holds current established moved

/-! ## The terminal -/

/-- An event that the user sees. -/
def Event.shown : Event → Bool
  | .printed _ | .prompted _ => true
  | _ => false

theorem Event.quiet_of_shown {event : Event} (shown : event.shown = true) :
    event.quiet = true := by
  cases event with
  | printed => rfl
  | prompted => rfl
  | _ => cases shown

/-- The user was shown something since, and no more happened. -/
structure Client.Shown (start client : Client Action) : Prop where
  session : client.session = start.session
  leaving : client.exitRequested = start.exitRequested
  shows : start.timeline.Adds Event.shown client.timeline

namespace Client.Shown

variable {start middle client : Client Action}

theorem refl (client : Client Action) : Shown client client :=
  ⟨rfl, rfl, .of_log rfl⟩

theorem trans (first : Shown start middle) (second : Shown middle client) : Shown start client :=
  ⟨second.session.trans first.session, second.leaving.trans first.leaving,
    first.shows.trans second.shows⟩

theorem noted (shown : Shown start client) (line : String) :
    Shown start (client.noted (.printed line)) :=
  ⟨shown.session, shown.leaving, shown.shows.trans (.note rfl)⟩

end Client.Shown

namespace Terminal

/-- Asking prints and prompts, and no more. -/
theorem shows_askAmong {α : Type} (prompt retry : String) (decisive : String → Option α)
    (limit : Nat) (inputs : List Input) (timeline : Timeline) :
    timeline.Adds Event.shown
      (askAmong prompt retry decisive limit inputs timeline).2.timeline := by
  -- Only an answer that decides nothing is followed by another prompt.
  induction inputs generalizing timeline with
  | nil => exact Timeline.Adds.trans (.note rfl) (.note rfl)
  | cons input inputs ih =>
      have shown : timeline.Adds Event.shown (timeline.note (.prompted prompt)) := .note rfl
      unfold askAmong
      simp only
      split
      next after waited =>
        have passed := shown.trans (.of_wait waited)
        split
        next =>
          split
          next => exact passed
          next => exact passed.trans (Timeline.Adds.trans (.note rfl) (ih _))
        next => exact passed.trans (.note rfl)
        next => exact passed.trans (.note rfl)
        next => exact passed
      next waited => exact shown.trans (.of_wait waited)

/-- When asking is dropped, the last thing noted is the prompt that it waits at. -/
theorem exists_prompted_of_askAmong {α : Type} {prompt retry : String}
    {decisive : String → Option α} {limit : Nat} {inputs : List Input} {timeline : Timeline}
    (dropped : (askAmong prompt retry decisive limit inputs timeline).1 = none) :
    ∃ earlier, (askAmong prompt retry decisive limit inputs timeline).2.timeline.log =
      timeline.log ++ earlier ++ [.prompted prompt] := by
  induction inputs generalizing timeline with
  | nil => cases dropped
  | cons input inputs ih =>
      have kept := (timeline.note (.prompted prompt)).log_wait
        (input.delay.map ((timeline.note (.prompted prompt)).now + ·)) none limit
      unfold askAmong at dropped ⊢
      simp only at dropped ⊢
      split
      next after waited =>
        simp only [waited] at dropped kept
        split
        next text answered =>
          simp only [answered] at dropped
          split
          next value decided => simp only [decided] at dropped; cases dropped
          next undecided =>
            simp only [undecided] at dropped
            obtain ⟨earlier, log⟩ := ih dropped
            refine ⟨[.prompted prompt, .printed retry] ++ earlier, ?_⟩
            rw [log]
            simp only [Timeline.note, kept, List.append_assoc, List.cons_append, List.nil_append]
        next answered => simp only [answered] at dropped; cases dropped
        next answered => simp only [answered] at dropped; cases dropped
        next answered => simp only [answered] at dropped; cases dropped
      next ending after _ waited =>
        rw [waited] at kept
        exact ⟨[], by rw [List.append_nil]; exact kept⟩

/-- All that an act at the terminal does is seen by the user. -/
def Silent {α : Type} (act : Act Terminal α) : Prop :=
  ∀ limit (terminal : Terminal),
    terminal.timeline.Adds Event.shown (act limit terminal).2.timeline

namespace Silent

variable {α β : Type}

theorem pure (value : α) : Silent (Pure.pure value) :=
  fun _ _ => .of_log rfl

theorem bind {first : Act Terminal α} {next : α → Act Terminal β} (now : Silent first)
    (later : ∀ value, Silent (next value)) : Silent (first >>= next) := by
  intro limit terminal
  have begun := now limit terminal
  rw [Act.bind_apply]
  rcases ended : first limit terminal with ⟨_ | value, between⟩
  case none =>
    rw [ended] at begun
    exact begun
  case some =>
    rw [ended] at begun
    exact begun.trans (later value limit between)

theorem print (line : String) : Silent (Terminal.print line) :=
  fun _ _ => .note rfl

theorem ask (prompt retry : String) (decisive : String → Option α) :
    Silent (Terminal.ask prompt retry decisive) :=
  fun limit terminal => shows_askAmong prompt retry decisive limit _ terminal.timeline

theorem printPeers (number : Nat) (peers : List Peer) :
    Silent (Terminal.printPeers number peers) := by
  induction peers generalizing number with
  | nil => exact .pure ()
  | cons peer peers ih => exact .bind (.print _) fun _ => ih _

theorem selectPeer (peers : List Peer) : Silent (Terminal.selectPeer peers) := by
  unfold Terminal.selectPeer
  split
  next => exact .bind (.print _) fun _ => .pure _
  next =>
    refine .bind (.print _) fun _ => .bind (.printPeers 1 peers) fun _ => .bind (.print _) fun _ =>
      .bind (.ask _ _ _) fun selected => ?_
    split
    next => exact .pure _
    next => exact .pure _
    next =>
      split
      next => exact .pure _
      next => exact .pure _

theorem readAnswer (prompt : String) : Silent (Terminal.readAnswer prompt) := by
  intro limit terminal
  have shown : terminal.timeline.Adds Event.shown (terminal.timeline.note (.prompted prompt)) :=
    .note rfl
  unfold Terminal.readAnswer
  simp only
  split
  next => exact shown
  next =>
    split
    next waited => exact shown.trans (.of_wait waited)
    next waited => exact shown.trans (.of_wait waited)

end Silent

end Terminal

/-- What survives that the user is shown something, an act at the terminal keeps that does
no more. -/
theorem Act.Leads.atTerminal_of_shown {β : Type} {kept : Client Action → Prop}
    {act : Act Terminal β} (silent : Terminal.Silent act)
    (keeps : ∀ client terminal, kept client →
      client.timeline.Adds Event.shown terminal.timeline → kept (client.facing terminal)) :
    Act.Leads kept (Client.atTerminal act) (fun _ => kept) kept := by
  refine .atTerminal fun client holds => .of_snd ?_
  rintro limit terminal rfl
  exact keeps client _ holds (silent limit ⟨client.inputs, client.timeline⟩)

/-- What quiet times keep, an act at the terminal keeps that is silent. -/
theorem Act.Leads.atTerminal_of_silent {β : Type} {kept : Client Action → Prop}
    {act : Act Terminal β} (silent : Terminal.Silent act)
    (keeps : ∀ client terminal, kept client → client.timeline.Quiet terminal.timeline →
      kept (client.facing terminal)) :
    Act.Leads kept (Client.atTerminal act) (fun _ => kept) kept :=
  .atTerminal_of_shown silent fun client terminal holds shown =>
    keeps client terminal holds (shown.mono fun _ => Event.quiet_of_shown)

/-! ## Steps of a command -/

/-- Whether an action makes another dataset the current one. -/
def Action.storesDataset : Action → Bool
  | .datasetSet | .datasetReset => true
  | _ => false

namespace Work

variable {α β : Type}

/-- A step and then another, which is not begun when the first fails or is dropped. -/
theorem run_bind (first : Work α) (next : α → Work β) (limit : Nat) (client : Client Action) :
    (first >>= next).run limit client =
      match first.run limit client with
      | (some (.ok value), client) => (next value).run limit client
      | (some (.error error), client) => (some (.error error), client)
      | (none, client) => (none, client) := by
  rw [ExceptT.run_bind, Act.bind_apply]
  rcases first.run limit client with ⟨_ | _ | _, _⟩ <;> rfl

/-- Printing a line notes it, and the command goes on. -/
theorem run_print_bind (line : String) (next : Unit → Work β) (limit : Nat)
    (client : Client Action) :
    (print line >>= next).run limit client =
      (next ()).run limit (client.noted (.printed line)) := by
  rw [run_bind]
  rfl

/-- What becomes of a step that uses the current session. -/
theorem run_onCurrent_eq {session : Session} {client : Client Action} (limit : Nat)
    {act : Act Conversation (Except SessionError α)} (current : client.session = some session)
    (established : session.phase = .established) :
    (attempt (Client.onCurrent act)).run limit client =
      ((act limit ⟨session, client.timeline⟩).1.map fun result => result.mapError .session,
        client.holding (act limit ⟨session, client.timeline⟩).2) := by
  have usable : session.isEstablished = true := decide_eq_true established
  show Client.onCurrent act limit client = _
  simp only [Client.onCurrent, current, usable, if_true]
  rfl

/-- A step that uses the current session, and succeeds, leaves the client with what it
made of the session. -/
theorem run_onCurrent {session : Session} {client : Client Action} {limit : Nat} {value : α}
    {talk : Conversation} {act : Act Conversation (Except SessionError α)}
    (current : client.session = some session) (established : session.phase = .established)
    (ended : act limit ⟨session, client.timeline⟩ = (some (.ok value), talk)) :
    (attempt (Client.onCurrent act)).run limit client =
      (some (.ok value), client.holding talk) := by
  rw [run_onCurrent_eq limit current established, ended]
  rfl

/-- A step that needs a session goes on when there is one. -/
theorem run_needSession {client : Client Action} (limit : Nat)
    (connected : client.isConnected = true) :
    needSession.run limit client = (some (.ok ()), client) := by
  have read : Work.client.run limit client = (some (.ok client), client) := rfl
  rw [needSession, run_bind, read]
  simp only [connected, if_true]
  rfl

/-! ## Where a command leads -/

/-- From clients of which `before` holds, a command leads to clients of which `after` holds
with its value, of which `failed` holds when it fails, or of which `dropped` holds when it
is dropped. -/
def Leads (before : Client Action → Prop) (work : Work α) (after : α → Client Action → Prop)
    (failed dropped : Client Action → Prop) : Prop :=
  Act.Leads before work.run (Act.either after failed) dropped

/-- A command keeps what holds, unless it is dropped. -/
def Keeps (kept dropped : Client Action → Prop) (work : Work α) : Prop :=
  Leads kept work (fun _ => kept) kept dropped

namespace Leads

variable {before failed dropped : Client Action → Prop} {after : α → Client Action → Prop}

theorem pure {value : α} (ends : ∀ client, before client → after value client) :
    Leads before (Pure.pure value) after failed dropped :=
  fun _ client holds => ends client holds

theorem throw {error : CommandError} (ends : ∀ client, before client → failed client) :
    Leads before (MonadExcept.throw error) after failed dropped :=
  fun _ client holds => ends client holds

theorem bind {middle : α → Client Action → Prop} {after : β → Client Action → Prop}
    {first : Work α} {next : α → Work β} (now : Leads before first middle failed dropped)
    (later : ∀ value, Leads (middle value) (next value) after failed dropped) :
    Leads before (first >>= next) after failed dropped := by
  intro limit client holds
  have begun := now limit client holds
  rw [run_bind]
  rcases ended : first.run limit client with ⟨_ | _ | value, between⟩
  case none =>
    rw [ended] at begun
    exact begun
  case some.error =>
    rw [ended] at begun
    exact begun
  case some.ok =>
    rw [ended] at begun
    exact later value limit between begun

theorem always {act : Act (Client Action) α} (leads : Act.Leads before act after dropped) :
    Leads before (Work.always act) after failed dropped :=
  Act.Leads.bind leads fun _ => .pure fun _ holds => holds

theorem attemptWith {ε : Type} {reason : ε → CommandError}
    {act : Act (Client Action) (Except ε α)}
    (leads : Act.Leads before act (Act.either after failed) dropped) :
    Leads before (Work.attemptWith reason act) after failed dropped := by
  refine Act.Leads.bind leads fun result => .pure fun client holds => ?_
  cases result with
  | ok => exact holds
  | error => exact holds

theorem mono {before' failed' dropped' : Client Action → Prop} {after' : α → Client Action → Prop}
    {work : Work α} (leads : Leads before work after failed dropped)
    (weaker : ∀ client, before' client → before client)
    (ends : ∀ value client, after value client → after' value client)
    (fails : ∀ client, failed client → failed' client)
    (drops : ∀ client, dropped client → dropped' client) :
    Leads before' work after' failed' dropped' := by
  refine Act.Leads.mono leads weaker (fun result client holds => ?_) drops
  cases result with
  | ok value => exact ends value client holds
  | error => exact fails client holds

/-- The client that is read is the one that there is. -/
theorem client :
    Leads before Work.client (fun value client => value = client ∧ before client) failed dropped :=
  .always .state

/-- What holds of the client that is read holds of what the command does with it. -/
theorem read {next : Client Action → Work α}
    (later : ∀ read, before read →
      Leads (fun client => client = read) (next read) after failed dropped) :
    Leads before (Work.client >>= next) after failed dropped :=
  fun limit client holds => later client holds limit client rfl

theorem weaken {before' : Client Action → Prop} {work : Work α}
    (weaker : ∀ client, before' client → before client)
    (leads : Leads before work after failed dropped) : Leads before' work after failed dropped :=
  fun limit client holds => leads limit client (weaker client holds)

theorem print {line : String} {after : Unit → Client Action → Prop}
    (ends : ∀ client, before client → after () (client.noted (.printed line))) :
    Leads before (Work.print line) after failed dropped :=
  fun _ client holds => ends client holds

end Leads

/-! ## What ordinary commands keep -/

/-- What holds of a client survives that lines are printed and that batches are received on
the current session; a step that is dropped makes `dropped` hold. -/
structure Receptive (kept dropped : Client Action → Prop) : Prop where
  print : ∀ (line : String) (client : Client Action),
    kept client → kept (client.noted (.printed line))
  receive : ∀ size timeout,
    Act.Leads kept (Client.onCurrent (Conversation.receive size timeout)) (fun _ => kept) dropped

/-- It survives all the steps that ordinary commands are made of, but for storing a dataset. -/
structure Steady (kept dropped : Client Action → Prop) : Prop extends Receptive kept dropped where
  ask : ∀ {α : Type} (prompt retry : String) (decisive : String → Option α),
    Act.Leads kept (Client.atTerminal (Terminal.ask prompt retry decisive)) (fun _ => kept) dropped
  request : ∀ record,
    Act.Leads kept (Client.onCurrent (Conversation.request record)) (fun _ => kept) dropped

/-- It survives all the steps that ordinary commands are made of. -/
structure Stable (kept dropped : Client Action → Prop) : Prop extends Steady kept dropped where
  store : ∀ (dataset : Dataset) (client : Client Action),
    kept client → kept { client with dataset := dataset }

namespace Keeps

variable {kept dropped : Client Action → Prop}

theorem pure (value : α) : Keeps kept dropped (Pure.pure value : Work α) :=
  Leads.pure fun _ holds => holds

theorem throw (error : CommandError) : Keeps kept dropped (MonadExcept.throw error : Work α) :=
  Leads.throw fun _ holds => holds

theorem bind {first : Work α} {next : α → Work β} (now : Keeps kept dropped first)
    (later : ∀ value, Keeps kept dropped (next value)) : Keeps kept dropped (first >>= next) :=
  Leads.bind now later

/-- A step that keeps what holds, whatever it comes to. -/
theorem of_act {act : Act (Client Action) (Except CommandError α)}
    (leads : Act.Leads kept act (fun _ => kept) dropped) : Keeps kept dropped (attempt act) :=
  leads.either

theorem client : Keeps kept dropped Work.client :=
  fun _ _ holds => holds

theorem needSession : Keeps kept dropped Work.needSession := by
  refine .bind .client fun client => ?_
  split
  next => exact .pure _
  next => exact .throw _

/-- Lines are printed one after another. -/
theorem printAll (prints : ∀ (line : String) (client : Client Action),
    kept client → kept (client.noted (.printed line))) (lines : List String) :
    Keeps kept dropped (Work.printAll lines) := by
  induction lines with
  | nil => exact .pure _
  | cons line lines ih =>
      exact .bind (Leads.print fun client holds => prints line client holds) fun _ => ih

end Keeps

namespace Receptive

variable {kept dropped : Client Action → Prop}

theorem keeps_print (receptive : Receptive kept dropped) (line : String) :
    Keeps kept dropped (Work.print line) :=
  Leads.print fun client holds => receptive.print line client holds

theorem keeps_receiveBatch (receptive : Receptive kept dropped) :
    Keeps kept dropped Work.receiveBatch :=
  .bind .client fun _ => .of_act (receptive.receive _ _)

/-- The state of a station is asked for without waiting for an answer to the request. -/
theorem leads_wifiStatus {before failed : Client Action → Prop} (receptive : Receptive kept dropped)
    (prints : ∀ (line : String) (client : Client Action),
      before client → before (client.noted (.printed line)))
    (refused : ∀ client, before client → failed client)
    (fails : ∀ client, kept client → failed client)
    (sends : Act.Leads before (Client.onCurrent (Conversation.send (application "wifi_status")))
      (Act.either (fun _ => kept) failed) dropped) :
    Leads before wifiStatus (fun _ => kept) failed dropped := by
  have needs : Leads before needSession (fun _ => before) failed dropped := by
    refine .bind .client fun client => ?_
    split
    next => exact .pure fun _ holds => holds.2
    next => exact .throw fun client holds => refused client holds.2
  refine .bind needs fun _ => .bind (.print fun client holds => prints _ client holds) fun _ =>
    .bind sends fun _ => ?_
  refine Leads.mono (Keeps.bind receptive.keeps_receiveBatch fun received => ?_)
    (fun _ holds => holds) (fun _ _ holds => holds) fails fun _ holds => holds
  cases received with
  | none => exact .pure _
  | some records =>
      have last : ∀ line, Keeps kept dropped (do Work.print line; return Outcome.none) :=
        fun line => .bind (receptive.keeps_print line) fun _ => .pure _
      simp only
      cases (StationBatch.gather records).station with
      | none =>
          split
          next => exact last _
          next => exact last _
          next => exact .pure _
      | some station =>
          split
          next => exact .bind (receptive.keeps_print _) fun _ => last _
          next => exact .bind (receptive.keeps_print _) fun _ => last _
          next => exact last _

end Receptive

namespace Steady

variable {kept dropped : Client Action → Prop}

theorem keeps_ask (steady : Steady kept dropped) (prompt retry : String)
    (decisive : String → Option α) :
    Keeps kept dropped (Work.ask (Terminal.ask prompt retry decisive)) :=
  Leads.attemptWith (steady.ask prompt retry decisive).either

theorem keeps_request (steady : Steady kept dropped) (record : Tlv) :
    Keeps kept dropped (Work.request record) :=
  .of_act (steady.request record)

/-- A line that is printed on a condition. -/
theorem keeps_printIf (steady : Steady kept dropped) {condition : Prop} [Decidable condition]
    {line : String} {next : Work α} (later : Keeps kept dropped next) :
    Keeps kept dropped (if condition then do Work.print line; next else next) := by
  split
  next => exact .bind (steady.keeps_print line) fun _ => later
  next => exact later

theorem keeps_announced (steady : Steady kept dropped) (line : String) (record : Tlv) :
    Keeps kept dropped (announced line record) :=
  .bind .needSession fun _ => .bind (steady.keeps_print line) fun _ =>
    .bind (steady.keeps_request record) fun _ => .pure _

theorem keeps_commission (steady : Steady kept dropped) : Keeps kept dropped commission :=
  .bind .needSession fun _ => .bind (steady.keeps_print _) fun _ =>
    .bind .client fun _ => .bind (steady.keeps_request _) fun _ => .pure _

theorem keeps_reboot (steady : Steady kept dropped) : Keeps kept dropped reboot := by
  refine .bind (steady.keeps_request _) fun answered => ?_
  cases answered with
  | none => exact .pure _
  | some answer => exact steady.keeps_printIf (.pure _)

theorem keeps_storeNetwork (steady : Steady kept dropped) (network : Network) :
    Keeps kept dropped (storeNetwork network) := by
  refine .bind (steady.keeps_ask _ _ _) fun entered => ?_
  cases entered with
  | cancelled => exact .pure _
  | value password =>
      refine .bind (steady.keeps_print _) fun _ =>
        .bind (steady.keeps_request _) fun answered => ?_
      cases answered with
      | none => exact .pure _
      | some answer =>
          exact steady.keeps_printIf (.bind (steady.keeps_print _) fun _ => .pure _)

/-- Networks are shown before the user is asked about them. -/
theorem leads_offerNetworks (steady : Steady kept dropped) (networks : List Network) :
    Leads (fun client => kept (((client.noted (.printed "Found Wi-Fi networks:")).noted
        (.printed (Render.networkTable networks))).noted (.printed consentLine)))
      (offerNetworks networks) (fun _ => kept) kept dropped := by
  intro limit client holds
  rw [offerNetworks, run_print_bind, run_print_bind, run_print_bind]
  refine Keeps.bind (steady.keeps_ask _ _ _) (fun consented => ?_) limit _ holds
  split
  next => exact .pure _
  next => exact .pure _
  next =>
    refine .bind (steady.keeps_print _) fun _ => .bind (steady.keeps_ask _ _ _) fun selected => ?_
    split
    next => exact .pure _
    next =>
      split
      next network _ => exact steady.keeps_storeNetwork network
      next => exact .pure _

theorem keeps_offerNetworks (steady : Steady kept dropped) (networks : List Network) :
    Keeps kept dropped (offerNetworks networks) :=
  (steady.leads_offerNetworks networks).mono
    (fun _ holds => steady.print _ _ (steady.print _ _ (steady.print _ _ holds)))
    (fun _ _ holds => holds) (fun _ holds => holds) fun _ holds => holds

theorem keeps_gatherNetworks (steady : Steady kept dropped) :
    Keeps kept dropped gatherNetworks := by
  refine .bind steady.keeps_receiveBatch fun received => ?_
  cases received with
  | none => exact .pure _
  | some records =>
      refine steady.keeps_printIf ?_
      split
      next => exact .bind (steady.keeps_print _) fun _ => .pure _
      next => exact steady.keeps_offerNetworks _

theorem keeps_wifiScan (steady : Steady kept dropped) : Keeps kept dropped wifiScan := by
  refine .bind .needSession fun _ => .bind (steady.keeps_print _) fun _ =>
    .bind (steady.keeps_request _) fun answered => ?_
  cases answered with
  | none => exact .pure _
  | some answer =>
      simp only
      split
      next => exact .bind (steady.keeps_print _) fun _ => .pure _
      next => exact .bind (steady.keeps_print _) fun _ => .pure _
      next => exact steady.keeps_gatherNetworks
      next => exact steady.keeps_gatherNetworks

/-- What an ordinary command keeps, if those keep it that store a dataset. -/
theorem keeps_perform (steady : Steady kept dropped) {action : Action} (noScan : action ≠ .scan)
    (noStatus : action ≠ .wifiStatus) (noExit : action ≠ .exit) (arguments : List String)
    (stores : action.storesDataset = true → Keeps kept dropped (perform action arguments)) :
    Keeps kept dropped (perform action arguments) := by
  cases action with
  | help => exact .bind .client fun _ => .bind (.printAll steady.print _) fun _ => .pure _
  | hello => exact steady.keeps_announced _ _
  | commission => exact steady.keeps_commission
  | threadStart => exact steady.keeps_announced _ _
  | threadStop => exact steady.keeps_announced _ _
  | scan => exact absurd rfl noScan
  | wifiScan => exact steady.keeps_wifiScan
  | wifiStatus => exact absurd rfl noStatus
  | reboot => exact steady.keeps_reboot
  | datasetPrint => exact .bind .client fun _ => .bind (steady.keeps_print _) fun _ => .pure _
  | datasetSet => exact stores rfl
  | datasetReset => exact stores rfl
  | exit => exact absurd rfl noExit

/-- What survives that the user is shown something, and all that an established session does,
ordinary commands keep. -/
theorem of_moves {kept : Client Action → Prop}
    (shows : ∀ client terminal, kept client → client.timeline.Quiet terminal.timeline →
      kept (client.facing terminal))
    (moves : ∀ client session talk taken written, kept client → client.session = some session →
      session.phase = .established →
        Conversation.Moves ⟨session, client.timeline⟩ taken written talk →
          kept (client.holding talk)) :
    Steady kept kept where
  print line client holds :=
    shows client ⟨client.inputs, client.timeline.note (.printed line)⟩ holds (.note rfl)
  ask prompt retry decisive := .atTerminal_of_silent (.ask prompt retry decisive) shows
  request sent := .onCurrent_of_moves (Conversation.exists_moves_request sent) moves
  receive size timeout := .onCurrent_of_moves (Conversation.exists_moves_receive size timeout) moves

end Steady

namespace Stable

variable {kept dropped : Client Action → Prop}

theorem keeps_store (stable : Stable kept dropped) (dataset : Dataset) :
    Keeps kept dropped
      (always (Act.change fun client => { client with dataset := dataset })) :=
  Leads.always (.change fun client holds => stable.store dataset client holds)

theorem keeps_datasetSet (stable : Stable kept dropped) (arguments : List String) :
    Keeps kept dropped (datasetSet arguments) := by
  unfold datasetSet
  split
  next =>
    split
    next => exact .throw _
    next dataset _ =>
      exact .bind (stable.keeps_store dataset) fun _ =>
        .bind (stable.keeps_print _) fun _ => .pure _
  next => exact .throw _

/-- What a command keeps that stores a dataset. -/
theorem keeps_stores (stable : Stable kept dropped) {action : Action}
    (stores : action.storesDataset = true) (arguments : List String) :
    Keeps kept dropped (perform action arguments) := by
  cases action with
  | datasetSet => exact stable.keeps_datasetSet arguments
  | datasetReset =>
      exact .bind (stable.keeps_store _) fun _ => .bind (stable.keeps_print _) fun _ => .pure _
  | _ => cases stores

/-- What an ordinary command keeps. Those that are left out change sessions, or write
without the mark of an unfinished request. -/
theorem keeps_perform (stable : Stable kept dropped) {action : Action} (noScan : action ≠ .scan)
    (noStatus : action ≠ .wifiStatus) (noExit : action ≠ .exit) (arguments : List String) :
    Keeps kept dropped (perform action arguments) :=
  stable.toSteady.keeps_perform noScan noStatus noExit arguments fun stores =>
    stable.keeps_stores stores arguments

/-- What lasts when a dataset is stored as well, every ordinary command keeps. -/
theorem of_moves {kept : Client Action → Prop}
    (shows : ∀ client terminal, kept client → client.timeline.Quiet terminal.timeline →
      kept (client.facing terminal))
    (store : ∀ (dataset : Dataset) (client : Client Action),
      kept client → kept { client with dataset := dataset })
    (moves : ∀ client session talk taken written, kept client → client.session = some session →
      session.phase = .established →
        Conversation.Moves ⟨session, client.timeline⟩ taken written talk →
          kept (client.holding talk)) :
    Stable kept kept :=
  ⟨.of_moves shows moves, store⟩

end Stable

/-- A line that names a command carries it out. -/
theorem run_dispatch {line : String} {client : Client Action} {action : Action} {consumed : Nat}
    (resolved : client.registry.resolve (Text.words line) = .run action consumed) (limit : Nat) :
    (dispatch line).run limit client =
      (perform action ((Text.words line).drop consumed)).run limit client := by
  have words : ¬ (Text.words line).isEmpty = true := by
    intro empty
    rw [List.isEmpty_iff.mp empty] at resolved
    cases resolved
  have read : Work.client.run limit client = (some (.ok client), client) := rfl
  unfold dispatch
  simp only [if_neg words]
  rw [run_bind, read]
  simp only [resolved]

/-- A line that names no command does no more than print. -/
theorem leads_dispatch {start : Client Action} {line : String}
    {after : Outcome → Client Action → Prop} {failed dropped : Client Action → Prop}
    (performs : ∀ action consumed,
      start.registry.resolve (Text.words line) = .run action consumed →
        Leads (fun client => client = start)
          (perform action ((Text.words line).drop consumed)) after failed dropped)
    (empty : after .none start)
    (prints : ∀ line, after .none (start.noted (.printed line))) (fails : failed start) :
    Leads (fun client => client = start) (dispatch line) after failed dropped := by
  unfold dispatch
  simp only
  split
  next => exact .pure fun _ same => same ▸ empty
  next =>
    refine .read fun read same => ?_
    subst same
    split
    next action consumed resolved => exact performs action consumed resolved
    next =>
      have told : Leads (fun client => client = read)
          (Work.print "Invalid usage. Provide a subcommand.")
          (fun _ client => client = read.noted (.printed "Invalid usage. Provide a subcommand."))
          failed dropped :=
        .print fun _ same => by rw [same]
      exact .bind told fun _ => .pure fun _ same => same ▸ prints _
    next => exact .throw fun _ same => same ▸ fails

end Work

end Commissioner
