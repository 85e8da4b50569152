import Commissioner.Link.Script

/-!
# How a far end takes what is written

A far end takes octets from the front, in pieces. They are all of them when the writing
comes to its end, and not all of them when it is waited for in vain (`Script.Takes`).

Writing and passing on go on from the moment at which they begin, and wait no longer than up
to their limit. When the far end answers everything by some moment (`Script.AnswersBy`), neither
of them is waited for in vain, nor goes on behind that moment.
-/

set_option autoImplicit false

namespace Commissioner

/-! ## Pieces -/

namespace Script

/-- How octets were taken in pieces from one moment to another, up to a limit. -/
structure Takes (limit : Nat) (octets : Octets) (now : Nat) (pieces : List Octets)
    (ending : WriteEnd) (later : Nat) : Prop where
  front : pieces.flatten <+: octets
  whole : ending = .done → pieces.flatten = octets
  part : ending = .stalled → pieces.flatten ≠ octets
  notBefore : now ≤ later
  inTime : later ≤ max now limit

variable {limit now later : Nat}

/-- **Writing takes octets from the front**, however the far end takes the writes. -/
theorem takes_of_writeAll {acceptances rest : List Acceptance} {octets : Octets}
    {pieces : List Octets} {ending : WriteEnd}
    (written : writeAll limit acceptances octets now = (pieces, ending, rest, later)) :
    Takes limit octets now pieces ending later := by
  fun_induction Script.writeAll limit acceptances octets now generalizing pieces rest with
  | case1 =>
      cases written
      exact ⟨List.nil_prefix, fun _ => rfl, nofun, Nat.le_refl _, Nat.le_max_left ..⟩
  | case2 octets | case3 _ octets =>
      cases written
      have whole : [octets].flatten = octets := List.flatten_singleton
      exact ⟨⟨[], by rw [whole, List.append_nil]⟩, fun _ => whole, nofun, Nat.le_refl _,
        Nat.le_max_left ..⟩
  | case4 | case6 =>
      cases written
      exact ⟨List.nil_prefix, nofun, nofun, Nat.le_refl _, Nat.le_max_left ..⟩
  | case5 count rest octets now _ more ending left moment behind ih =>
      cases written
      have takes := ih behind
      have cut : octets.take (count + 1) ++ octets.drop (count + 1) = octets :=
        List.take_append_drop ..
      refine ⟨?_, fun done => ?_, fun stalled same => ?_, takes.notBefore, takes.inTime⟩
      · rw [List.flatten_cons]
        have further := (List.prefix_append_right_inj (octets.take (count + 1))).mpr takes.front
        rwa [cut] at further
      · rw [List.flatten_cons, takes.whole done, cut]
      · rw [List.flatten_cons] at same
        exact takes.part stalled (List.append_cancel_left (same.trans cut.symm))
  | case7 due rest octets now _ near ih =>
      obtain ⟨front, whole, part, notBefore, inTime⟩ := ih written
      refine ⟨front, whole, part, ?_, ?_⟩
      · omega
      · omega
  | case8 _ _ octets now some | case9 _ octets now some =>
      cases written
      exact ⟨List.nil_prefix, nofun, fun _ same => some same.symm, Nat.le_refl _,
        Nat.le_max_left ..⟩

/-- Passing on goes on from its moment, and no further than up to its limit. -/
theorem moment_of_passOn {flushes rest : List Flushing} {ending : WriteEnd}
    (passed : passOn limit flushes now = (ending, rest, later)) :
    now ≤ later ∧ later ≤ max now limit := by
  fun_induction Script.passOn limit flushes now generalizing rest with
  | case4 due rest now near ih =>
      obtain ⟨notBefore, inTime⟩ := ih passed
      constructor
      · omega
      · omega
  | _ =>
      cases passed
      exact ⟨Nat.le_refl _, Nat.le_max_left ..⟩

/-- A flush changes no more than the flushes to come. -/
theorem eq_of_flush {script after : Script} {ending : WriteEnd}
    (flushed : script.flush limit now = (ending, after, later)) :
    after = { script with flushes := after.flushes } := by
  have same : (script.flush limit now).2.1 = after := by rw [flushed]
  rw [← same]
  rfl

theorem moment_of_flush {script after : Script} {ending : WriteEnd}
    (flushed : script.flush limit now = (ending, after, later)) :
    now ≤ later ∧ later ≤ max now limit := by
  cases flushed
  exact moment_of_passOn rfl

end Script

/-! ## Answers in time -/

/-- The far end answers a write by a moment. -/
def Acceptance.AnsweredBy (moment : Nat) : Acceptance → Prop
  | .busy due => due ≤ moment
  | .stall => False
  | _ => True

/-- The far end answers a flush by a moment. -/
def Flushing.AnsweredBy (moment : Nat) : Flushing → Prop
  | .busy due => due ≤ moment
  | .stall => False
  | _ => True

namespace Script

/-- The far end answers every write and every flush by a moment. -/
structure AnswersBy (script : Script) (moment : Nat) : Prop where
  writes : ∀ acceptance ∈ script.acceptances, acceptance.AnsweredBy moment
  flushes : ∀ flushing ∈ script.flushes, flushing.AnsweredBy moment

variable {limit now later moment : Nat}

/-- Writing that is answered by a moment is over by then. -/
theorem writeAll_of_answered {acceptances rest : List Acceptance} {octets : Octets}
    {pieces : List Octets} {ending : WriteEnd}
    (answered : ∀ acceptance ∈ acceptances, acceptance.AnsweredBy moment)
    (near : moment ≤ max now limit)
    (written : writeAll limit acceptances octets now = (pieces, ending, rest, later)) :
    ending ≠ .stalled ∧ later ≤ max now moment := by
  fun_induction Script.writeAll limit acceptances octets now generalizing pieces rest with
  | case1 | case2 | case3 | case4 | case6 =>
      cases written
      exact ⟨nofun, Nat.le_max_left ..⟩
  | case5 count rest octets now _ more ending left moment behind ih =>
      cases written
      exact ih (fun other member => answered other (List.mem_cons_of_mem _ member)) near behind
  | case7 due rest octets now _ inTime ih =>
      have soon : due ≤ moment := answered _ List.mem_cons_self
      obtain ⟨ends, within⟩ :=
        ih (fun other member => answered other (List.mem_cons_of_mem _ member)) (by omega) written
      exact ⟨ends, by omega⟩
  | case8 due rest octets now _ far =>
      have soon : due ≤ moment := answered _ List.mem_cons_self
      omega
  | case9 => exact absurd (answered _ List.mem_cons_self) id

/-- Passing on that is answered by a moment is over by then. -/
theorem passOn_of_answered {flushes rest : List Flushing} {ending : WriteEnd}
    (answered : ∀ flushing ∈ flushes, flushing.AnsweredBy moment) (near : moment ≤ max now limit)
    (passed : passOn limit flushes now = (ending, rest, later)) :
    ending ≠ .stalled ∧ later ≤ max now moment := by
  fun_induction Script.passOn limit flushes now generalizing rest with
  | case1 | case2 | case3 =>
      cases passed
      exact ⟨nofun, Nat.le_max_left ..⟩
  | case4 due rest now inTime ih =>
      have soon : due ≤ moment := answered _ List.mem_cons_self
      obtain ⟨ends, within⟩ :=
        ih (fun other member => answered other (List.mem_cons_of_mem _ member)) (by omega) passed
      exact ⟨ends, by omega⟩
  | case5 due rest now far =>
      have soon : due ≤ moment := answered _ List.mem_cons_self
      omega
  | case6 => exact absurd (answered _ List.mem_cons_self) id

theorem flush_of_answered {script after : Script} {ending : WriteEnd}
    (answered : ∀ flushing ∈ script.flushes, flushing.AnsweredBy moment)
    (near : moment ≤ max now limit)
    (flushed : script.flush limit now = (ending, after, later)) :
    ending ≠ .stalled ∧ later ≤ max now moment := by
  cases flushed
  exact passOn_of_answered answered near rfl

end Script

end Commissioner
