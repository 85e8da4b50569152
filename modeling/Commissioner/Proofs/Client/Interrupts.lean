import Mathlib.Data.List.Basic
import Commissioner.Proofs.Client.Gate
import Commissioner.Proofs.Session.Outgoing

/-!
# What an interrupt leaves behind

When the user interrupts a command that has written octets and not taken the answer to them,
the session is closed and let go before the next prompt. A single command may leave it in
use: one that asks for the state of the station writes without the mark of an unfinished
request, so an interrupt goes unnoticed until the link has passed that request on
(`StillWriting`).

A command is followed from the line that was read on. It either keeps the client tidy
(`Client.Tidy`), or stops in one of four ways (`Client.Stops`).
-/

set_option autoImplicit false

namespace Commissioner

/-! ## Requests without an answer -/

/-- Octets were written, and the user was asked nothing since. A command asks the user again
only once it has taken the answer to what it wrote. -/
def Unanswered (events : List Event) : Prop :=
  ∃ before link octets after, events = before ++ .wrote link octets :: after ∧
    ∀ prompt, .prompted prompt ∉ after

/-- A command that waits at a prompt has no request without an answer. -/
theorem not_unanswered_of_prompted (earlier : List Event) (prompt : String) :
    ¬ Unanswered (earlier ++ [.prompted prompt]) := by
  rintro ⟨before, link, octets, after, split, unasked⟩
  have last : (Event.wrote link octets :: after).getLast? = some (.prompted prompt) := by
    rw [← List.getLast?_append_cons before, ← split, List.getLast?_concat]
  rcases List.mem_cons.mp (List.mem_of_getLast? last) with same | later
  · cases same
  · exact unasked prompt later

theorem not_unanswered_of_silent {events : List Event}
    (silent : ∀ event ∈ events, event.traffic? = none) : ¬ Unanswered events := by
  rintro ⟨before, link, octets, after, rfl, -⟩
  cases silent _ (List.mem_append_right before List.mem_cons_self)

/-- The line asks for the state of the station, and the link has not passed the request for it
on. It has taken a part of that request by then, or all of it. -/
def StillWriting (registry : Registry Action) (line : String) (events : List Event) : Prop :=
  (∃ consumed, registry.resolve (Text.words line) = .run .wifiStatus consumed) ∧
    ¬ PassedOn events

/-- What was written is a front of the request for the state of the station. -/
def Fronts (events : List Event) : Prop :=
  ∃ wire, (Work.application "wifi_status").encode = .ok wire ∧ writes events <+: wire

namespace Client

/-! ## Tidy clients -/

/-- The client has no session with an unfinished request. -/
def Clean (client : Client Action) : Prop :=
  ∀ session, client.session = some session → session.unfinished = false

/-- Since a record of what had happened, only more has happened, and no request is
unfinished. -/
structure Tidy (record : List Event) (client : Client Action) : Prop where
  grown : record <+: client.timeline.log
  clean : client.Clean

/-- How an ordinary command stops where it is dropped: amid a request that is marked as
unfinished, or at a prompt. -/
inductive Halts (record : List Event) (client : Client Action) : Prop where
  | marked {session : Session} (grown : record <+: client.timeline.log)
      (current : client.session = some session) (unfinished : session.unfinished = true)
  | asked (earlier : List Event) (prompt : String)
      (log : client.timeline.log = record ++ earlier ++ [.prompted prompt])

/-- How any command stops where it is dropped. -/
inductive Stops (registry : Registry Action) (line : String) (record : List Event)
    (client : Client Action) : Prop where
  /-- Amid a request that is marked as unfinished. -/
  | marked {session : Session} (events : List Event)
      (log : client.timeline.log = record ++ events) (current : client.session = some session)
      (unfinished : session.unfinished = true) (past : ¬ StillWriting registry line events)
  /-- At a prompt. -/
  | asked (earlier : List Event) (prompt : String)
      (log : client.timeline.log = record ++ earlier ++ [.prompted prompt])
  /-- While nothing travelled yet. -/
  | idle {events : List Event} (log : client.timeline.log = record ++ events)
      (silent : ∀ event ∈ events, event.traffic? = none)
  /-- Amid writing without a mark. The link has taken a front of the request by then. -/
  | writing {session : Session} (events : List Event)
      (log : client.timeline.log = record ++ events) (current : client.session = some session)
      (established : session.phase = .established) (finished : session.unfinished = false)
      (held : session.link ≠ none) (still : StillWriting registry line events)
      (front : Fronts events)

namespace Tidy

variable {record : List Event} {client : Client Action}

theorem print (tidy : Tidy record client) (line : String) :
    Tidy record (client.noted (.printed line)) where
  grown := tidy.grown.trans (List.prefix_append _ _)
  clean := tidy.clean

end Tidy

end Client

namespace Work

variable {record : List Event}

/-- An act on the current session that is marked while it lasts. -/
theorem leads_marked {α : Type} {act : Act Conversation (Except SessionError α)}
    (moves : ∀ limit talk, ∃ taken written,
      Conversation.Moves talk taken written (act limit talk).2)
    (marks : ∀ limit talk, (act limit talk).2.session.unfinished = (act limit talk).1.isNone) :
    Act.Leads (Client.Tidy record) (Client.onCurrent act) (fun _ => Client.Tidy record)
      (Client.Halts record) := by
  refine .onCurrent (fun client session tidy current _ => ?_) fun _ tidy => tidy
  rintro limit talk rfl
  obtain ⟨_, _, moved⟩ := moves limit ⟨session, client.timeline⟩
  have grown := tidy.grown.trans moved.prefix_log
  have mark := marks limit ⟨session, client.timeline⟩
  rcases ended : act limit ⟨session, client.timeline⟩ with ⟨_ | result, after⟩
  case none =>
    rw [ended] at grown mark
    exact .marked grown rfl mark
  case some =>
    rw [ended] at grown mark
    exact ⟨grown, fun other same => by cases same; exact mark⟩

theorem stable_tidy : Stable (Client.Tidy record) (Client.Halts record) where
  print line _ tidy := tidy.print line
  store _ _ tidy := ⟨tidy.grown, tidy.clean⟩
  request sent :=
    leads_marked (Conversation.exists_moves_request sent) (Conversation.unfinished_request sent)
  receive size timeout :=
    leads_marked (Conversation.exists_moves_receive size timeout)
      (Conversation.unfinished_receive size timeout)
  ask prompt retry decisive := by
    refine .atTerminal fun client tidy => ?_
    rintro limit terminal rfl
    have quiet := Terminal.Silent.ask prompt retry decisive limit ⟨client.inputs, client.timeline⟩
    rcases ended : Terminal.ask prompt retry decisive limit ⟨client.inputs, client.timeline⟩ with
      ⟨_ | answer, terminal⟩
    case none =>
      have dropped : (Terminal.askAmong prompt retry decisive limit client.inputs
          client.timeline).1 = none := congrArg Prod.fst ended
      obtain ⟨earlier, log⟩ := Terminal.exists_prompted_of_askAmong dropped
      obtain ⟨since, same⟩ := tidy.grown
      have noted :
          terminal.timeline.log = client.timeline.log ++ earlier ++ [.prompted prompt] := by
        rw [← log]
        exact congrArg (fun pair => pair.2.timeline.log) ended.symm
      refine .asked (since ++ earlier) prompt ?_
      rw [Client.facing, noted, ← same, List.append_assoc record]
    case some =>
      rw [ended] at quiet
      exact ⟨tidy.grown.trans quiet.prefix_log, tidy.clean⟩

/-! ## Asking for the state of the station -/

/-- Since a record of what had happened, only events of which something holds have happened, and
no request is unfinished. -/
structure Since (record : List Event) (holds : List Event → Prop) (client : Client Action) :
    Prop where
  log : ∃ events, client.timeline.log = record ++ events ∧ holds events
  clean : client.Clean

namespace Since

variable {holds after : List Event → Prop} {client : Client Action}

theorem tidy (since : Since record holds client) : Client.Tidy record client where
  grown := by
    obtain ⟨events, log, -⟩ := since.log
    exact ⟨events, log.symm⟩
  clean := since.clean

theorem holding {talk : Conversation} {more : List Event} (since : Since record holds client)
    (log : talk.timeline.log = client.timeline.log ++ more)
    (finished : talk.session.unfinished = false)
    (further : ∀ events, holds events → after (events ++ more)) :
    Since record after (client.holding talk) where
  log := by
    obtain ⟨events, same, held⟩ := since.log
    exact ⟨events ++ more, by rw [Client.holding, log, same, List.append_assoc],
      further events held⟩
  clean other same := by
    cases same
    exact finished

theorem print (since : Since record holds client) (line : String)
    (further : ∀ events, holds events → holds (events ++ [.printed line])) :
    Since record holds (client.noted (.printed line)) where
  log := by
    obtain ⟨events, same, held⟩ := since.log
    exact ⟨events ++ [.printed line], by rw [Client.noted, Timeline.note, same, List.append_assoc],
      further events held⟩
  clean := since.clean

end Since

/-- Nothing was written yet, or passed on. -/
def Unsaid (events : List Event) : Prop :=
  writes events = [] ∧ ¬ PassedOn events

theorem Unsaid.print {events : List Event} (unsaid : Unsaid events) (line : String) :
    Unsaid (events ++ [.printed line]) where
  left := by
    rw [writes_append, unsaid.1]
    rfl
  right := by
    rw [passedOn_append]
    exact not_or_intro unsaid.2 (not_passedOn_printed line)

/-- Once the request was passed on, what is dropped is the wait for the answer, which is marked. -/
theorem receptive_sent (registry : Registry Action) (line : String) :
    Receptive (Since record PassedOn) (Client.Stops registry line record) where
  print line _ sent := sent.print line fun _ passed => (passedOn_append ..).mpr (.inl passed)
  receive size timeout := by
    refine .onCurrent (fun client session sent current _ => ?_) fun _ sent => sent
    rintro limit talk rfl
    obtain ⟨_, moves, -⟩ :=
      Conversation.receive_accounts size timeout limit ⟨session, client.timeline⟩
    obtain ⟨events, ledger⟩ := moves.exists_ledger
    have mark := Conversation.unfinished_receive size timeout limit ⟨session, client.timeline⟩
    rcases ended : Conversation.receive size timeout limit ⟨session, client.timeline⟩ with
      ⟨_ | result, after⟩
    all_goals rw [ended] at ledger mark
    case none =>
      obtain ⟨before, same, passed⟩ := sent.log
      have stillPassed := (passedOn_append before events).mpr (.inl passed)
      refine .marked (before ++ events) ?_ rfl mark fun writing => writing.2 stillPassed
      rw [Client.holding, ledger.log, same, List.append_assoc]
    case some =>
      exact sent.holding ledger.log mark fun _ passed => (passedOn_append ..).mpr (.inl passed)

/-- While it is written nothing is marked, and a wait that is dropped is one before the link has
passed the request on. -/
theorem leads_send_wifiStatus {registry : Registry Action} {line : String} {consumed : Nat}
    (resolved : registry.resolve (Text.words line) = .run .wifiStatus consumed) :
    Act.Leads (Since record Unsaid)
      (Client.onCurrent (Conversation.send (application "wifi_status")))
      (Act.either (fun _ => Since record PassedOn) (Client.Tidy record))
      (Client.Stops registry line record) := by
  refine .onCurrent (fun client session begun current _ => ?_) fun _ begun => begun.tidy
  rintro limit talk rfl
  obtain ⟨before, same, unwritten, unpassed⟩ := begun.log
  have kept := Conversation.unfinished_send (application "wifi_status") limit
    ⟨session, client.timeline⟩
  have finished := kept.trans (begun.clean session current)
  obtain ⟨_, _, moves⟩ := Conversation.exists_moves_send (application "wifi_status") limit
    ⟨session, client.timeline⟩
  rcases ended : Conversation.send (application "wifi_status") limit
    ⟨session, client.timeline⟩ with ⟨_ | _ | _, after⟩
  all_goals rw [ended] at finished moves
  case none =>
    obtain ⟨link, pieces, dropped⟩ := Conversation.send_dropped ended
    obtain ⟨far, held⟩ := dropped.stillHeld
    obtain ⟨wire, encoded, front⟩ := dropped.front
    obtain ⟨events, log, halts⟩ := dropped.log
    refine .writing (before ++ events) ?_ rfl dropped.established finished
      (by rw [held]; exact nofun) ⟨⟨consumed, resolved⟩, ?_⟩ ⟨wire, encoded, ?_⟩
    · rw [Client.holding, log, same, List.append_assoc]
    · rw [passedOn_append]
      exact not_or_intro unpassed halts.not_passedOn
    · rw [writes_append, unwritten, List.nil_append, halts.writes_eq]
      exact front
  case some.error =>
    exact ⟨begun.tidy.grown.trans moves.prefix_log, fun other is => by cases is; exact finished⟩
  case some.ok =>
    obtain ⟨link, pieces, wrote⟩ := Conversation.send_ok ended
    exact begun.holding wrote.log finished fun _ _ =>
      (passedOn_append ..).mpr (.inr (passedOn_transmission link.id pieces))

/-- Asking for the state of the station leaves the client tidy, or stops. -/
theorem wifiStatus_stops {registry : Registry Action} {line : String} {consumed : Nat}
    (resolved : registry.resolve (Text.words line) = .run .wifiStatus consumed) :
    Leads (Since record Unsaid) wifiStatus (fun _ => Client.Tidy record) (Client.Tidy record)
      (Client.Stops registry line record) := by
  have asks : Leads (Since record Unsaid) wifiStatus (fun _ => Since record PassedOn)
      (Client.Tidy record) (Client.Stops registry line record) :=
    (receptive_sent registry line).leads_wifiStatus
      (fun line _ begun => begun.print line fun _ unsaid => unsaid.print line)
      (fun _ begun => begun.tidy) (fun _ sent => sent.tidy) (leads_send_wifiStatus resolved)
  exact asks.mono (fun _ begun => begun) (fun _ _ sent => sent.tidy) (fun _ tidy => tidy)
    fun _ stops => stops

/-! ## Commands -/

/-- An idle client is tidy, whatever it did before. -/
theorem tidy_of_idles {start client : Client Action} (idles : Client.Idles start client) :
    Client.Tidy start.timeline.log client where
  grown := by
    obtain ⟨events, log, -⟩ := idles.log
    exact ⟨events, log.symm⟩
  clean other current := by cases idles.session.symm.trans current

/-- So is one that came by a session, which is not in use yet. -/
theorem tidy_of_connects {start client : Client Action}
    (connects : Client.Connects start client) : Client.Tidy start.timeline.log client := by
  cases connects with
  | idle idles => exact tidy_of_idles idles
  | connected idles current _ secured =>
      refine ⟨(tidy_of_idles idles).grown, fun other same => ?_⟩
      cases current.symm.trans same
      exact secured.finished

theorem stops_of_idles {registry : Registry Action} {line : String} {start client : Client Action}
    (idles : Client.Idles start client) :
    Client.Stops registry line start.timeline.log client := by
  obtain ⟨events, log, silent⟩ := idles.log
  exact .idle log silent

/-- **Every command leaves the client tidy, or stops in one of the four ways.** -/
theorem dispatch_stops {start : Client Action} (clean : start.Clean) (line : String) :
    Leads (fun client => client = start) (dispatch line)
      (fun _ => Client.Tidy start.timeline.log) (Client.Tidy start.timeline.log)
      (Client.Stops start.registry line start.timeline.log) := by
  have tidy : Client.Tidy start.timeline.log start := ⟨List.prefix_refl _, clean⟩
  refine leads_dispatch (fun action consumed resolved => ?_) tidy (fun line => tidy.print line) tidy
  by_cases isScan : action = .scan
  case pos =>
    subst isScan
    exact (scan_connects start).mono (fun _ same => same) (fun _ _ => tidy_of_connects)
      (fun _ => tidy_of_idles) fun _ => stops_of_idles
  by_cases isStatus : action = .wifiStatus
  case pos =>
    subst isStatus
    have begun : Since start.timeline.log Unsaid start :=
      ⟨⟨[], (List.append_nil _).symm, rfl, nofun⟩, clean⟩
    exact .weaken (fun _ same => same ▸ begun) (wifiStatus_stops resolved)
  by_cases isExit : action = .exit
  case pos =>
    subst isExit
    have letsGo : Act.Leads (fun client => client = start) Client.invalidate
        (fun _ => Client.Idles start) (Client.Idles start) :=
      .of_snd fun limit client same => same ▸ Client.invalidate_idles limit client
    refine .bind (.always (letsGo.mono (fun _ same => same) (fun _ _ => tidy_of_idles)
      fun _ => stops_of_idles)) fun _ => ?_
    exact .bind (.always (.change fun _ tidy => ⟨tidy.grown, tidy.clean⟩))
      fun _ => .pure fun _ tidy => tidy
  refine (stable_tidy.keeps_perform isScan isStatus isExit _).mono (fun _ same => same ▸ tidy)
    (fun _ _ tidy => tidy) (fun _ tidy => tidy) fun client halts => ?_
  cases halts with
  | marked grown current unfinished =>
      obtain ⟨events, log⟩ := grown
      refine .marked events log.symm current unfinished fun still => ?_
      obtain ⟨⟨_, other⟩, -⟩ := still
      cases resolved.symm.trans other
      exact isStatus rfl
  | asked earlier prompt log => exact .asked earlier prompt log

end Work

namespace Client

/-! ## Turns -/

/-- A client is at a prompt of the loop, with so many turns left to go. -/
inductive Prompts (limit : Nat) (start : Client Action) : Nat → Client Action → Prop where
  | first : Prompts limit start (start.inputs.length + 1) start
  /-- The user has entered a line, and it was carried out. -/
  | next {turns : Nat} {client entered after : Client Action} {line : String}
      (earlier : Prompts limit start (turns + 1) client) (stays : client.exitRequested = false)
      (read : atTerminal (Terminal.readAnswer prompt) limit client = (some (.line line), entered))
      (ran : runLine line limit entered = (some (), after)) : Prompts limit start turns after

theorem Prompts.run_eq {limit turns : Nat} {start client : Client Action}
    (prompts : Prompts limit start turns client) :
    run limit start = runTurns turns limit client := by
  induction prompts with
  | first => rfl
  | next _ stays read ran ih =>
      rw [ih, runTurns, Act.bind_apply]
      simp only [Act.state, stays, Bool.false_eq_true, if_false]
      rw [Act.bind_apply, read]
      simp only
      rw [Act.bind_apply, ran]

/-! ## The end of a turn -/

theorem discardClosed_of_open {client : Client Action} {limit : Nat}
    (opened : client.session.any Session.isClosed = false) :
    (discardClosed limit client).2 = client := by
  rw [discardClosed_eq, opened]
  rfl

theorem discardUnfinished_of_clean {client : Client Action} (clean : client.Clean) (limit : Nat) :
    discardUnfinished limit client = (some false, client) := by
  unfold discardUnfinished
  rw [Act.bind_apply]
  simp only [Act.state]
  cases current : client.session with
  | none => rfl
  | some session =>
      simp only [clean session current]
      rfl

/-- A session with an unfinished request is shut down in an orderly way and let go. -/
theorem discardUnfinished_parts {client : Client Action} {session : Session}
    (current : client.session = some session) (unfinished : session.unfinished = true)
    (limit : Nat) : Parts client (discardUnfinished limit client).2 := by
  have parts := invalidate_parts limit client
  unfold discardUnfinished
  rw [Act.bind_apply]
  simp only [Act.state, current, unfinished, if_true]
  rw [Act.bind_apply]
  rcases ended : invalidate limit client with ⟨_ | _, after⟩
  all_goals
    rw [ended] at parts
    exact parts

theorem leads_discardUnfinished :
    Act.Leads (fun _ : Client Action => True) discardUnfinished (fun _ => Clean)
      (fun _ => True) := by
  refine Act.Leads.mono (.of_snd fun limit client _ => ?_) (fun _ holds => holds)
    (fun _ _ clean => clean) fun _ _ => trivial
  by_cases unfinished : client.Clean
  case pos =>
    rw [discardUnfinished_of_clean unfinished]
    exact unfinished
  case neg =>
    simp only [Clean, not_forall] at unfinished
    obtain ⟨session, current, marked⟩ := unfinished
    have parts := discardUnfinished_parts current (by simpa using marked) limit
    exact fun other same => by cases parts.session.symm.trans same

/-- A command that may be interrupted stops, when it is, as it would by itself. -/
theorem leads_command {start : Client Action} (clean : start.Clean) (line : String) :
    Act.Leads (fun client => client = start) (runInterruptible (Work.dispatch line))
      (ranTo (fun _ => Tidy start.timeline.log) (Tidy start.timeline.log)
        (Stops start.registry line start.timeline.log))
      (Stops start.registry line start.timeline.log) := by
  refine leads_runInterruptible fun interrupts => ?_
  have still : (start.expecting interrupts).Clean := clean
  exact Work.dispatch_stops still line

/-- Once a command has ended no request is unfinished, and once it was interrupted none is
when that was said. -/
theorem leads_showRan {record : List Event} {stops : Client Action → Prop} (ran : Ran) :
    Act.Leads (ranTo (fun _ => Tidy record) (Tidy record) stops ran) (showRan ran)
      (fun _ => Clean) (fun _ => True) := by
  have prints : ∀ line, Act.Leads Clean (print line) (fun _ => Clean) (fun _ => True) :=
    fun line => (Act.Leads.atTerminal_of_silent (.print line) fun _ _ clean _ => clean).mono
      (fun _ clean => clean) (fun _ _ clean => clean) fun _ _ => trivial
  cases ran with
  | interrupted =>
      have said : Act.Leads stops (print Terminal.interruptedLine)
          (fun _ (_ : Client Action) => True) (fun _ => True) :=
        .of_snd fun _ _ _ => trivial
      exact .bind said fun _ => .bind leads_discardUnfinished fun _ => .pure fun _ clean => clean
  | ended result =>
      cases result with
      | error => exact .weaken (fun _ (tidy : Tidy record _) => tidy.clean) (prints _)
      | ok outcome =>
          cases outcome with
          | none => exact .pure fun _ (tidy : Tidy record _) => tidy.clean
          | record =>
              exact .bind .state fun _ => .weaken (fun _ holds => Tidy.clean holds.2) (prints _)

/-- **No request is unfinished when a turn has ended.** -/
theorem leads_runLine {start : Client Action} (clean : start.Clean) (line : String) :
    Act.Leads (fun client => client = start) (runLine line) (fun _ => Clean) (fun _ => True) := by
  have discards : Act.Leads Clean discardClosed (fun _ => Clean) (fun _ => True) := by
    refine Act.Leads.mono (.of_snd fun limit client clean => ?_) (fun _ clean => clean)
      (fun _ _ clean => clean) fun _ _ => trivial
    rw [discardClosed_eq]
    split
    next => exact fun _ current => by cases current
    next => exact clean
  refine .bind ((leads_command clean line).mono (fun _ same => same) (fun _ _ holds => holds)
    fun _ _ => trivial) fun ran => ?_
  exact .bind (leads_showRan ran) fun _ => .bind discards fun _ => .pure fun _ clean => clean

/-- No request is unfinished at a prompt, if none was at first. -/
theorem Prompts.clean {limit turns : Nat} {start client : Client Action}
    (prompts : Prompts limit start turns client) (clean : start.Clean) : client.Clean := by
  induction prompts with
  | first => exact clean
  | next _ _ read ran ih =>
      have entered : Act.Leads Clean (atTerminal (Terminal.readAnswer prompt)) (fun _ => Clean)
          Clean :=
        .atTerminal_of_silent (.readAnswer prompt) fun _ _ clean _ => clean
      exact (leads_runLine (entered.of_value ih read) _).of_value rfl ran

/-! ## Interrupted commands -/

/-- After an interrupt the session is shut down in an orderly way, unless its link is gone
already, and let go. -/
structure Discards (interrupted after : Client Action) : Prop where
  session : after.session = none
  log : ∃ session, interrupted.session = some session ∧
    after.timeline.log = interrupted.timeline.log ++
      .printed Terminal.interruptedLine :: Conversation.parting session.link

/-- After an interrupt the session remains, on its link. -/
structure Retains (interrupted after : Client Action) : Prop where
  session : ∃ session, interrupted.session = some session ∧ after.session = some session ∧
    session.phase = .established ∧ session.link ≠ none
  log : after.timeline.log = interrupted.timeline.log ++ [.printed Terminal.interruptedLine]

/-- What is left to do once a command was interrupted: to say so, and to let go of a session
with an unfinished request, or one that is closed. -/
theorem exists_discards_of_runLine {line : String} {limit : Nat}
    {entered interrupted after : Client Action}
    (ran : runInterruptible (Work.dispatch line) limit entered = (some .interrupted, interrupted))
    (ended : runLine line limit entered = (some (), after)) :
    ∃ flag client,
      discardUnfinished limit (interrupted.noted (.printed Terminal.interruptedLine)) =
        (some flag, client) ∧ (discardClosed limit client).2 = after := by
  have said : showRan .interrupted limit interrupted =
      (do let _ ← discardUnfinished) limit
        (interrupted.noted (.printed Terminal.interruptedLine)) :=
    rfl
  rw [runLine, Act.bind_apply, ran] at ended
  simp only at ended
  rw [Act.bind_apply, said, Act.bind_apply] at ended
  rcases discarded : discardUnfinished limit
    (interrupted.noted (.printed Terminal.interruptedLine)) with ⟨_ | flag, client⟩
  case none => rw [discarded] at ended; cases ended
  case some =>
    rw [discarded] at ended
    simp only [Act.pure_apply] at ended
    rw [Act.bind_apply, discardClosed_eq] at ended
    refine ⟨flag, client, rfl, ?_⟩
    rw [discardClosed_eq]
    split at ended
    next same => rw [same]; cases ended; rfl
    next same => split at same <;> cases same

/-- The end of a turn whose command was interrupted while its request had no answer. -/
theorem discards_or_retains {line : String} {limit : Nat}
    {entered interrupted after : Client Action} {events : List Event} (clean : entered.Clean)
    (ran : runInterruptible (Work.dispatch line) limit entered = (some .interrupted, interrupted))
    (log : interrupted.timeline.log = entered.timeline.log ++ events)
    (unanswered : Unanswered events) (ended : runLine line limit entered = (some (), after)) :
    (¬ StillWriting entered.registry line events → Discards interrupted after) ∧
      (StillWriting entered.registry line events → Retains interrupted after ∧ Fronts events) := by
  have stops : Stops entered.registry line entered.timeline.log interrupted :=
    (leads_command clean line).of_value rfl ran
  obtain ⟨_, client, discarded, rfl⟩ := exists_discards_of_runLine ran ended
  -- At a prompt, and while nothing travelled yet, no request is without an answer.
  cases stops with
  | asked earlier prompt noted =>
      rw [noted, List.append_assoc] at log
      exact absurd (List.append_cancel_left log ▸ unanswered) (not_unanswered_of_prompted _ _)
  | idle noted silent =>
      cases List.append_cancel_left (noted.symm.trans log)
      exact absurd unanswered (not_unanswered_of_silent silent)
  | marked _ noted current unfinished past =>
      cases List.append_cancel_left (noted.symm.trans log)
      refine ⟨fun _ => ?_, fun still => absurd still past⟩
      have same : (interrupted.noted (.printed Terminal.interruptedLine)).session = some _ :=
        current
      have parts := discardUnfinished_parts same unfinished limit
      have closing := parts.log
      rw [discarded] at parts closing
      rw [link, same] at closing
      rw [discardClosed_of_open (by rw [parts.session]; rfl)]
      exact ⟨parts.session, _, current, closing.trans (List.append_assoc ..)⟩
  | writing _ noted current established finished held writing front =>
      cases List.append_cancel_left (noted.symm.trans log)
      refine ⟨fun past => absurd writing past, fun _ => ⟨?_, front⟩⟩
      have still : (interrupted.noted (.printed Terminal.interruptedLine)).Clean :=
        fun other same => by cases current.symm.trans same; exact finished
      cases discarded.symm.trans (discardUnfinished_of_clean still limit)
      have opened : (interrupted.noted (.printed Terminal.interruptedLine)).session.any
          Session.isClosed = false := by
        rw [Client.noted, current, Option.any_some, Session.isClosed, established]
        rfl
      rw [discardClosed_of_open opened]
      exact ⟨⟨_, current, current, established, held⟩, rfl⟩

/-- A turn of a run in which the user entered a line and interrupted its command, up to its
end. -/
structure InterruptedTurn (limit : Nat) (start : Client Action) (turns : Nat) (line : String)
    (entered interrupted after : Client Action) : Prop where
  read : ∃ client, Prompts limit start (turns + 1) client ∧ client.exitRequested = false ∧
    atTerminal (Terminal.readAnswer prompt) limit client = (some (.line line), entered)
  ran : runInterruptible (Work.dispatch line) limit entered = (some .interrupted, interrupted)
  ended : runLine line limit entered = (some (), after)

/-- **What an interrupt leaves behind.** Whatever command of a run the user interrupts, and
whenever, while octets that it wrote are without an answer: the session is shut down and let
go, the run goes on without it, and whatever travels later is carried by a link that is opened
and handed over later. This fails only if the command is the one that asks for the state of
the station and the link has not passed its request on yet. Then the session remains, on a link
that has taken a front of that request, which may be all of it. -/
theorem session_after_interrupt {limit turns : Nat} {line : String}
    {start entered interrupted after : Client Action} {events : List Event} (clean : start.Clean)
    (turn : InterruptedTurn limit start turns line entered interrupted after)
    (log : interrupted.timeline.log = entered.timeline.log ++ events)
    (unanswered : Unanswered events) :
    run limit start = runTurns turns limit after ∧
      (¬ StillWriting entered.registry line events → Discards interrupted after ∧
        Accounted after.settings after.Offers after.timeline.log
          (run limit start).2.timeline.log) ∧
      (StillWriting entered.registry line events → Retains interrupted after ∧ Fronts events) := by
  obtain ⟨client, prompts, stays, read⟩ := turn.read
  have reads : Act.Leads Clean (atTerminal (Terminal.readAnswer prompt)) (fun _ => Clean) Clean :=
    .atTerminal_of_silent (.readAnswer prompt) fun _ _ clean _ => clean
  have still : entered.Clean := reads.of_value (prompts.clean clean) read
  have goesOn : run limit start = runTurns turns limit after :=
    (Prompts.next prompts stays read turn.ended).run_eq
  obtain ⟨past, writing⟩ := discards_or_retains still turn.ran log unanswered turn.ended
  refine ⟨goesOn, fun unmarked => ⟨past unmarked, ?_⟩, writing⟩
  rw [goesOn]
  exact accounted_of_none (past unmarked).session turns limit

/-! ## A device that accepts three octets -/

instance (ran : Option Ran) : Decidable (ran = some .interrupted) :=
  match ran with
  | some .interrupted => isTrue rfl
  | some (.ended _) => isFalse nofun
  | none => isFalse nofun

/-- The client that has taken the user's answer at a prompt of the loop, within a second. -/
def answered (client : Client Action) : Client Action :=
  (atTerminal (Terminal.readAnswer prompt) 1000 client).2

/-- The client that the user interrupted in carrying out a line. -/
def stopped (line : String) (client : Client Action) : Client Action :=
  (runInterruptible (Work.dispatch line) 1000 client).2

/-- The client that has come to the end of a turn. -/
def passed (line : String) (client : Client Action) : Client Action :=
  (runLine line 1000 client).2

section

variable {client : Client Action} {line : String}

theorem readAnswer_eq_answered
    (read : (atTerminal (Terminal.readAnswer prompt) 1000 client).1 = some (.line line)) :
    atTerminal (Terminal.readAnswer prompt) 1000 client = (some (.line line), client.answered) :=
  Prod.ext read rfl

theorem runInterruptible_eq_stopped
    (ran : (runInterruptible (Work.dispatch line) 1000 client).1 = some .interrupted) :
    runInterruptible (Work.dispatch line) 1000 client = (some .interrupted, client.stopped line) :=
  Prod.ext ran rfl

theorem runLine_eq_passed (ended : (runLine line 1000 client).1 = some ()) :
    runLine line 1000 client = (some (), client.passed line) :=
  Prod.ext ended rfl

/-- The client that has come to the end of a turn is at the next prompt. -/
theorem Prompts.passed {turns : Nat} {start : Client Action}
    (prompts : Prompts 1000 start (turns + 1) client) (line : String)
    (stays : client.exitRequested = false)
    (read : (atTerminal (Terminal.readAnswer prompt) 1000 client).1 = some (.line line))
    (ended : (runLine line 1000 client.answered).1 = some ()) :
    Prompts 1000 start turns (client.answered.passed line) :=
  prompts.next stays (readAnswer_eq_answered read) (runLine_eq_passed ended)

end

/-- The user connects to a device that accepts three octets, and enters these lines. -/
def connectedClient (lines : List String) : Client Action :=
  passed "scan" (stallingClient ("scan" :: "1" :: lines)).answered

/-- Once connected, the client is at a prompt of the loop. -/
theorem prompts_connected (lines : List String)
    (scanned : (runLine "scan" 1000 (stallingClient ("scan" :: "1" :: lines)).answered).1 =
      some ()) :
    Prompts 1000 (stallingClient ("scan" :: "1" :: lines)) (lines.length + 2)
      (connectedClient lines) := by
  have inputs : (stallingClient ("scan" :: "1" :: lines)).inputs.length = lines.length + 2 := by
    simp [stallingClient, start]
  have atFirst : Prompts 1000 (stallingClient ("scan" :: "1" :: lines)) (lines.length + 2 + 1)
      (stallingClient ("scan" :: "1" :: lines)) :=
    inputs ▸ .first
  exact atFirst.passed "scan" rfl rfl scanned

/-- The turn in which the user's next line is carried out, if it is interrupted. -/
theorem interruptedTurn_connected (line : String) (lines : List String)
    (scanned : (runLine "scan" 1000
      (stallingClient ("scan" :: "1" :: line :: lines)).answered).1 = some ())
    (stays : (connectedClient (line :: lines)).exitRequested = false)
    (read : (atTerminal (Terminal.readAnswer prompt) 1000 (connectedClient (line :: lines))).1 =
      some (.line line))
    (ran : (runInterruptible (Work.dispatch line) 1000
      (connectedClient (line :: lines)).answered).1 = some .interrupted)
    (ended : (runLine line 1000 (connectedClient (line :: lines)).answered).1 = some ()) :
    InterruptedTurn 1000 (stallingClient ("scan" :: "1" :: line :: lines)) (lines.length + 2) line
      (connectedClient (line :: lines)).answered
      ((connectedClient (line :: lines)).answered.stopped line)
      ((connectedClient (line :: lines)).answered.passed line) where
  read := ⟨_, prompts_connected (line :: lines) scanned, stays, readAnswer_eq_answered read⟩
  ran := runInterruptible_eq_stopped ran
  ended := runLine_eq_passed ended

/-- Three octets of the greeting are written when it is interrupted. The session is let go. -/
theorem session_after_interrupt_hello :
    ∃ entered interrupted after,
      InterruptedTurn 1000 (stallingClient ["scan", "1", "hello"]) 2 "hello"
        entered interrupted after ∧
      interrupted.timeline.log = entered.timeline.log ++
        [.printed "Sending hello world...", .wrote 1 [0x82, 12, 72]] ∧
      Discards interrupted after := by
  have turn := interruptedTurn_connected "hello" [] (by decide +kernel)
    (by decide +kernel) (by decide +kernel) (by decide +kernel) (by decide +kernel)
  have log : ((connectedClient ["hello"]).answered.stopped "hello").timeline.log =
      (connectedClient ["hello"]).answered.timeline.log ++
        [.printed "Sending hello world...", .wrote 1 [0x82, 12, 72]] := by
    decide +kernel
  have unanswered : Unanswered [.printed "Sending hello world...", .wrote 1 [0x82, 12, 72]] :=
    ⟨[.printed "Sending hello world..."], 1, [0x82, 12, 72], [], rfl, nofun⟩
  have greets : (connectedClient ["hello"]).answered.registry.resolve (Text.words "hello") =
      .run .hello 1 := by
    decide +kernel
  have clean : (stallingClient ["scan", "1", "hello"]).Clean :=
    fun _ current => by cases current
  obtain ⟨-, past, -⟩ := session_after_interrupt clean turn log unanswered
  refine ⟨_, _, _, turn, log, (past ?_).1⟩
  rintro ⟨⟨_, asks⟩, -⟩
  cases greets.symm.trans asks

/-- Three octets of the request for the state of the station are written when it is interrupted.
The session remains, and the greeting that the user asks for next is not refused. -/
theorem session_left_half_written :
    ∃ entered interrupted after events,
      InterruptedTurn 1000 (stallingClient ["scan", "1", "wifi status", "hello"]) 3 "wifi status"
        entered interrupted after ∧
      interrupted.timeline.log = entered.timeline.log ++ events ∧ Unanswered events ∧
      after.session ≠ none ∧
      .printed "Sending hello world..." ∈ (runTurns 3 1000 after).2.timeline.log := by
  have turn := interruptedTurn_connected "wifi status" ["hello"]
    (by decide +kernel) (by decide +kernel) (by decide +kernel) (by decide +kernel)
    (by decide +kernel)
  refine ⟨_, _, _, [.printed "Wi-Fi status get...", .wrote 1 [0x82, 11, 119]], turn, ?_, ?_, ?_, ?_⟩
  · decide +kernel
  · exact ⟨[.printed "Wi-Fi status get..."], 1, [0x82, 11, 119], [], rfl, nofun⟩
  · decide +kernel
  · decide +kernel

end Client

end Commissioner
