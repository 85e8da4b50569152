import Commissioner.Timeline

/-!
# How far a wait goes

A wait has what is there by its horizon, which is its deadline or the moment at which it is
dropped, whichever comes first (`Timeline.wait_of_le_horizon`). What is not there by then it does
not have: it expires at the deadline or is dropped at the limit (`Timeline.wait_of_lapsed`,
`Timeline.wait_of_dropped`).
-/

set_option autoImplicit false

namespace Commissioner

/-- The last moment at which a wait up to a deadline still has what is there, when it is dropped
at a limit. -/
def Timeline.horizon (timeline : Timeline) (deadline : Option Nat) (limit : Nat) : Nat :=
  match deadline with
  | none => max timeline.now limit
  | some moment => min moment (max timeline.now limit)

namespace Timeline

variable {timeline : Timeline} {deadline : Option Nat} {limit due : Nat}

theorem horizon_le : timeline.horizon deadline limit ≤ max timeline.now limit := by
  cases deadline with
  | none => exact Nat.le_refl _
  | some moment => exact Nat.min_le_right ..

theorem horizon_le_deadline {bound : Nat} (bounded : bound ∈ deadline) :
    timeline.horizon deadline limit ≤ bound := by
  cases bounded
  exact Nat.min_le_left ..

theorem horizon_eq {bound : Nat} (bounded : bound ∈ deadline)
    (near : bound ≤ max timeline.now limit) : timeline.horizon deadline limit = bound := by
  cases bounded
  exact Nat.min_eq_left near

theorem horizon_of_ahead (ahead : ∀ bound ∈ deadline, max timeline.now limit < bound) :
    timeline.horizon deadline limit = max timeline.now limit := by
  cases deadline with
  | none => rfl
  | some moment => exact Nat.min_eq_right (Nat.le_of_lt (ahead moment rfl))

/-- While it waits for what is there by the horizon, the horizon stays where it is. -/
theorem horizon_advance (there : due ≤ timeline.horizon deadline limit) :
    (timeline.advance due).horizon deadline limit = timeline.horizon deadline limit := by
  cases deadline with
  | none =>
      simp only [horizon, advance] at there ⊢
      omega
  | some moment =>
      simp only [horizon, advance] at there ⊢
      omega

/-- What is there by the horizon is waited for. -/
theorem wait_of_le_horizon (there : due ≤ timeline.horizon deadline limit) :
    timeline.wait (some due) deadline limit = (.ready, timeline.advance due) := by
  cases deadline with
  | none =>
      simp only [horizon] at there
      simp only [wait, reaches, there, decide_true, if_true, Option.getD_some]
  | some moment =>
      have reached : due ≤ max timeline.now (min moment limit) := by
        simp only [horizon] at there
        omega
      simp only [wait, reaches, reached, decide_true, if_true, Option.getD_some]

/-- What is not there by a moment that lies ahead is not reached by then. -/
theorem reaches_of_late {coming : Option Nat} {moment : Nat}
    (late : ∀ due ∈ coming, max timeline.now moment < due) :
    timeline.reaches coming moment = false := by
  cases coming with
  | none => rfl
  | some due => exact decide_eq_false (Nat.not_le.mpr (late due rfl))

/-- A wait lasts up to its deadline when nothing is there by then. -/
theorem wait_of_lapsed {coming : Option Nat} {moment : Nat} (early : timeline.now ≤ moment)
    (near : moment ≤ max timeline.now limit) (late : ∀ due ∈ coming, moment < due) :
    timeline.wait coming (some moment) limit = (.expired, timeline.advance moment) := by
  have unreached : timeline.reaches coming (min moment limit) = false := by
    refine reaches_of_late fun due member => ?_
    have behind := late due member
    omega
  simp only [wait, unreached, near, if_true, Bool.false_eq_true, if_false]

/-- A wait is dropped when nothing is there by the limit, and the deadline lies behind it. -/
theorem wait_of_dropped {coming : Option Nat}
    (late : ∀ due ∈ coming, max timeline.now limit < due)
    (ahead : ∀ bound ∈ deadline, max timeline.now limit < bound) :
    timeline.wait coming deadline limit = (.dropped, timeline.advance limit) := by
  cases deadline with
  | none => simp only [wait, reaches_of_late late, Bool.false_eq_true, if_false]
  | some moment =>
      have behind : max timeline.now limit < moment := ahead moment rfl
      have unreached : timeline.reaches coming (min moment limit) = false := by
        refine reaches_of_late fun due member => ?_
        have later := late due member
        omega
      simp only [wait, unreached, Nat.not_le.mpr behind, Bool.false_eq_true, if_false]

/-- A wait up to a deadline that comes before the limit is not dropped. -/
theorem wait_ne_dropped (timeline : Timeline) (coming : Option Nat) {moment : Nat}
    (near : moment ≤ limit) : (timeline.wait coming (some moment) limit).1 ≠ .dropped := by
  simp only [wait]
  split
  next => rintro ⟨⟩
  next =>
    rw [if_pos (Nat.le_trans near (Nat.le_max_right ..))]
    rintro ⟨⟩

end Timeline

end Commissioner
