import Mathlib.Data.List.Basic
import Commissioner.Text.Fields

/-!
# Fields between separators

No field holds a separator, so a run that is cut at one of its separators falls into the fields
in front of it and those behind it, and there is one field more than there are separators.
-/

set_option autoImplicit false

namespace Commissioner.Fields

variable {α : Type} [BEq α]

theorem split_eq_splitOn (separator : α) (run : List α) :
    split separator run = run.splitOn separator := by
  induction run with
  | nil => rfl
  | cons x rest ih =>
      rw [split, List.splitOn_cons_eq_if_modifyHead, ih]
      split
      next => rfl
      next =>
        split
        next fields => rw [fields]; rfl
        next none => exact (List.splitOn_ne_nil _ _ none).elim

/-- There is one field more than there are separators. -/
theorem length_split (separator : α) (run : List α) :
    (split separator run).length = run.count separator + 1 := by
  induction run with
  | nil => rfl
  | cons x rest ih =>
      rw [split, List.count_cons]
      split
      next => rw [List.length_cons, ih]
      next =>
        split
        next fields cut =>
          rw [cut] at ih
          exact ih
        next none =>
          rw [none] at ih
          cases ih

variable [LawfulBEq α] {separator : α}

/-- No field holds a separator. -/
theorem not_mem_of_mem_split {run field : List α} (member : field ∈ split separator run) :
    separator ∉ field := by
  induction run generalizing field with
  | nil =>
      rw [List.mem_singleton.mp member]
      exact List.not_mem_nil
  | cons x rest ih =>
      rw [split] at member
      split at member
      next =>
        rcases List.mem_cons.mp member with rfl | behind
        · exact List.not_mem_nil
        · exact ih behind
      next other =>
        have apart : separator ≠ x := fun same => other (beq_iff_eq.mpr same.symm)
        split at member
        next first fields cut =>
          rcases List.mem_cons.mp member with rfl | behind
          · have clean : separator ∉ first := ih (by rw [cut]; exact List.mem_cons_self)
            exact List.not_mem_cons_of_ne_of_not_mem apart clean
          · exact ih (by rw [cut]; exact List.mem_cons_of_mem _ behind)
        next =>
          rw [List.mem_singleton.mp member]
          exact List.not_mem_cons_of_ne_of_not_mem apart List.not_mem_nil

/-- A run that is cut at one of its separators is cut in one place only, when the number of
separators in front of it is known. -/
theorem cut_unique {front behind other rest : List α}
    (same : front ++ separator :: behind = other ++ separator :: rest)
    (count : front.count separator = other.count separator) : front = other ∧ behind = rest := by
  -- Of the two fronts one goes on where the other ends, by no separator and so by nothing.
  rcases List.append_eq_append_iff.mp same with ⟨more, rfl, left⟩ | ⟨more, rfl, left⟩
  all_goals
    cases more with
    | nil =>
        cases left
        exact ⟨by rw [List.append_nil], rfl⟩
    | cons x more =>
        cases left
        rw [List.count_append, List.count_cons_self] at count
        omega

theorem split_of_not_mem {run : List α} (clean : separator ∉ run) :
    split separator run = [run] := by
  rw [split_eq_splitOn, List.splitOn_eq_singleton clean]

theorem split_append_cons {front : List α} (clean : separator ∉ front) (behind : List α) :
    split separator (front ++ separator :: behind) = front :: split separator behind := by
  rw [split_eq_splitOn, List.splitOn_append_cons_self_of_not_mem clean, ← split_eq_splitOn]

end Commissioner.Fields
