import Commissioner.Proofs.Client.Steps
import Commissioner.Proofs.Session.Delivery

/-!
# What commands add to the log

The steps that ordinary commands are made of add to the log and take nothing from it
(`Work.stable_grown`). So what was printed before a step stays on record in front of
whatever the step does.
-/

set_option autoImplicit false

namespace Commissioner

/-- Moves of a session add to the log. -/
theorem Conversation.Moves.prefix_log {talk after : Conversation} {taken : List Tlv}
    {written : Octets} (moves : Moves talk taken written after) :
    talk.timeline.log <+: after.timeline.log := by
  obtain ⟨events, ledger⟩ := moves.exists_ledger
  exact ⟨events, ledger.log.symm⟩

theorem Timeline.Quiet.prefix_log {before after : Timeline} (quiet : before.Quiet after) :
    before.log <+: after.log :=
  Adds.prefix_log quiet

namespace Work

/-- **What is on record stays there**, in front of what is added. -/
theorem stable_grown (record : List Event) :
    Stable (fun client => record <+: client.timeline.log)
      (fun client => record <+: client.timeline.log) :=
  .of_moves (fun _ _ holds quiet => holds.trans quiet.prefix_log) (fun _ _ holds => holds)
    fun _ _ _ _ _ holds _ _ moves => holds.trans moves.prefix_log

/-- What is printed before the user is asked about networks stays in front of what the
user is asked. -/
theorem prefix_offerNetworks (networks : List Network) (limit : Nat) (client : Client Action) :
    client.timeline.log ++
        [.printed "Found Wi-Fi networks:", .printed (Render.networkTable networks),
          .printed consentLine] <+:
      ((offerNetworks networks).run limit client).2.timeline.log := by
  have shown : client.timeline.log ++
      [.printed "Found Wi-Fi networks:", .printed (Render.networkTable networks),
        .printed consentLine] =
      (((client.noted (.printed "Found Wi-Fi networks:")).noted
        (.printed (Render.networkTable networks))).noted (.printed consentLine)).timeline.log := by
    simp only [Client.noted, Timeline.note, List.append_assoc, List.cons_append, List.nil_append]
  rw [shown]
  have grown := (stable_grown _).leads_offerNetworks networks limit client (List.prefix_refl _)
  rcases ended : (offerNetworks networks).run limit client with ⟨_ | _ | _, after⟩
  all_goals
    rw [ended] at grown
    exact grown

end Work

end Commissioner
