import Commissioner.Proofs.Client.Prompts

/-!
# How a run ends

A run of the loop ends at a prompt, with whatever the user does there. The command to leave, the
end of the input and an interrupt all close the current session in an orderly way. When the
console cannot be read the run ends with the fault, and the session is left as it is
(`Client.session_at_end`).
-/

set_option autoImplicit false

namespace Commissioner

namespace Client

variable {limit turns : Nat} {start client after : Client Action} {result : Except CommandError Unit}

/-- What a run comes to at its last prompt, at which the user gives an answer. -/
structure Departs (client entered : Client Action) (answer : Answer)
    (result : Except CommandError Unit) (after : Client Action) : Prop where
  /-- The session is shut down in an orderly way and let go. -/
  closes : (∀ fault, answer ≠ .fault fault) → result = .ok () ∧ after.session = none ∧
    after.timeline.log = entered.timeline.log ++ Conversation.parting client.link
  /-- The session stays, and nothing happens any more. -/
  breaks : ∀ fault, answer = .fault fault →
    result = .error (.fault fault) ∧ after = entered ∧ after.session = client.session

theorem Departs.of_closed {entered : Client Action} {answer : Answer}
    (read : ∀ fault, answer ≠ .fault fault) (returned : result = .ok ())
    (session : after.session = none)
    (log : after.timeline.log = entered.timeline.log ++ Conversation.parting client.link) :
    Departs client entered answer result after where
  closes _ := ⟨returned, session, log⟩
  breaks fault broken := absurd broken (read fault)

theorem link_of_session {other : Client Action} (session : other.session = client.session) :
    other.link = client.link := by
  rw [link, session]
  rfl

/-- Leaving lets the session go that there still is. -/
theorem parts_of_leaving
    (ended : (do invalidate; return .ok () : Act (Client Action) (Except CommandError Unit))
      limit client = (some result, after)) :
    result = .ok () ∧ Parts client after := by
  have parts := invalidate_parts limit client
  rw [Act.bind_apply] at ended
  rcases invalidated : invalidate limit client with ⟨_ | _, other⟩
  all_goals rw [invalidated] at ended parts
  case none => cases ended
  case some =>
    cases ended
    exact ⟨rfl, parts⟩

/-- A run that goes on from a prompt to its end comes to a last prompt. -/
theorem exists_departs (settled : start.Settled) (prompts : Prompts limit start turns client)
    (stays : client.exitRequested = false)
    (returned : runTurns turns limit client = (some result, after)) :
    ∃ left last entered answer, Prompts limit start (left + 1) last ∧
      last.exitRequested = false ∧
      atTerminal (Terminal.readAnswer prompt) limit last = (some answer, entered) ∧
      Departs last entered answer result after := by
  induction turns generalizing client with
  | zero => cases returned
  | succ turns ih =>
      rw [runTurns, Act.bind_apply] at returned
      simp only [Act.state, stays, Bool.false_eq_true, if_false] at returned
      rw [Act.bind_apply] at returned
      rcases read : atTerminal (Terminal.readAnswer prompt) limit client with ⟨_ | answer, entered⟩
      all_goals rw [read] at returned
      case none => cases returned
      have shown := shown_of_read read
      have still := shown.settled (prompts.settled settled)
      have same : entered.link = client.link := link_of_session shown.session
      have letsGo : ∀ {other : Client Action}, Parts entered other →
          other.session = none ∧ other.timeline.log =
            entered.timeline.log ++ Conversation.parting client.link :=
        fun parts => ⟨parts.session, same ▸ parts.log⟩
      cases answer with
      | interrupted | finished =>
          obtain ⟨rfl, parts⟩ := parts_of_leaving returned
          obtain ⟨session, log⟩ := letsGo parts
          exact ⟨turns, client, entered, _, prompts, stays, read,
            .of_closed (fun _ broken => by cases broken) rfl session log⟩
      | fault fault =>
          cases returned
          refine ⟨turns, client, _, _, prompts, stays, read, fun other => ?_, fun _ is => ?_⟩
          · exact absurd rfl (other fault)
          · cases is
            exact ⟨rfl, rfl, shown.session⟩
      | line line =>
          simp only at returned
          rw [Act.bind_apply] at returned
          rcases ran : runLine line limit entered with ⟨_ | _, next⟩
          all_goals rw [ran] at returned
          case none => cases returned
          obtain ⟨-, unasked | leaves⟩ := (leads_runLine_settled still line).of_value rfl ran
          · have goes : next.exitRequested = false :=
              unasked.trans (shown.leaving.trans stays)
            exact ih (prompts.next stays read ran) goes returned
          · -- The user has left, and the next turn finds no session to let go.
            cases turns with
            | zero => cases returned
            | succ turns =>
                simp only at returned
                rw [runTurns, Act.bind_apply] at returned
                simp only [Act.state, leaves.asked, if_true] at returned
                obtain ⟨rfl, parts⟩ := parts_of_leaving returned
                have unlinked : next.link = none := by
                  rw [link, leaves.session]
                  rfl
                refine ⟨turns + 1, client, entered, _, prompts, stays, read,
                  .of_closed (fun _ broken => by cases broken) rfl parts.session ?_⟩
                rw [parts.log, leaves.log, unlinked, same]
                exact List.append_nil _

/-- **The end of a run.** Whatever the user did before, and whatever ends it: when a run returns,
its last prompt had been answered. Unless the console could not be read there, no session is left,
and the one that was open at the prompt was shut down in an orderly way. When it could not be
read the run returns the fault, and leaves the client with the session as it was. -/
theorem session_at_end {registry : Registry Action} {settings : Settings}
    {surroundings : Surroundings} {inputs : List Input}
    (returned : run limit (Client.start registry settings surroundings inputs) =
      (some result, after)) :
    ∃ left last entered answer,
      Prompts limit (Client.start registry settings surroundings inputs) (left + 1) last ∧
      last.exitRequested = false ∧
      atTerminal (Terminal.readAnswer prompt) limit last = (some answer, entered) ∧
      Departs last entered answer result after :=
  exists_departs (settled_start registry settings surroundings inputs) .first rfl returned

theorem run_eq_of_fst (value : (run limit client).1 = some result) :
    run limit client = (some result, (run limit client).2) :=
  Prod.ext value rfl

/-- The user connects to the device and then ends the input. The link is shut down and let go. -/
theorem session_at_end_of_input :
    (run 1000 (stallingClient ["scan", "1"])).2.session = none ∧
      .shutDown 1 ∈ (run 1000 (stallingClient ["scan", "1"])).2.timeline.log := by
  have value : (run 1000 (stallingClient ["scan", "1"])).1 = some (.ok ()) := by
    decide +kernel
  have told : .shutDown 1 ∈ (run 1000 (stallingClient ["scan", "1"])).2.timeline.log := by
    decide +kernel
  rw [stallingClient] at value told ⊢
  obtain ⟨_, _, _, answer, -, -, -, departs⟩ := session_at_end (run_eq_of_fst value)
  have read : ∀ fault, answer ≠ .fault fault := by
    intro fault broken
    obtain ⟨failed, -⟩ := departs.breaks fault broken
    cases failed
  obtain ⟨-, gone, -⟩ := departs.closes read
  exact ⟨gone, told⟩

/-- A user who connects to the device and then enters what is no text. -/
def garblingClient : Client Action :=
  Client.start .builtIn .default stallingSurroundings
    [⟨some 0, .line "scan"⟩, ⟨some 0, .line "1"⟩,
      ⟨some 0, .fault ⟨.invalidData, some "stream did not contain valid UTF-8"⟩⟩]

/-- The run returns with its session, whose link was not shut down. -/
theorem session_left_at_fault :
    (run 1000 garblingClient).1.isSome = true ∧ (run 1000 garblingClient).2.session ≠ none ∧
      .shutDown 1 ∉ (run 1000 garblingClient).2.timeline.log := by
  decide +kernel

end Client

end Commissioner
