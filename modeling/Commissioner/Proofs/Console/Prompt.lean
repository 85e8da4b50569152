import Commissioner.Console.Prompt

/-!
# What the user decides at a prompt

Asking goes through the answers of the user until one decides something: a line that
decides it, or an interrupt or the end of the input, which call it off (`Terminal.Answers`).
The user decides one thing only (`Terminal.Answers.unique`), and asking that is not dropped
comes to it, with the answers behind left for later (`Terminal.answers_of_askAmong`).
-/

set_option autoImplicit false

namespace Commissioner.Terminal

variable {α : Type} {decisive : String → Option α}

/-- What the user makes of a question, with the answers left behind it. -/
inductive Answers (decisive : String → Option α) : List Input → Prompted α → List Input → Prop where
  | decided {delay : Option Nat} {text : String} {value : α} {rest : List Input}
      (decides : decisive text = some value) :
      Answers decisive (⟨delay, .line text⟩ :: rest) (.value value) rest
  /-- A line that decides nothing is passed over. -/
  | undecided {delay : Option Nat} {text : String} {outcome : Prompted α} {rest left : List Input}
      (idle : decisive text = none) (later : Answers decisive rest outcome left) :
      Answers decisive (⟨delay, .line text⟩ :: rest) outcome left
  | interrupted {delay : Option Nat} {rest : List Input} :
      Answers decisive (⟨delay, .interrupted⟩ :: rest) .cancelled rest
  | finished {delay : Option Nat} {rest : List Input} :
      Answers decisive (⟨delay, .finished⟩ :: rest) .cancelled rest
  /-- There is nothing left to read. -/
  | ended : Answers decisive [] .cancelled []

/-- The user decides one thing only. -/
theorem Answers.unique {inputs left other : List Input} {outcome second : Prompted α}
    (first : Answers decisive inputs outcome left)
    (again : Answers decisive inputs second other) : second = outcome ∧ other = left := by
  induction first with
  | decided decides =>
      cases again with
      | decided same =>
          cases decides.symm.trans same
          exact ⟨rfl, rfl⟩
      | undecided idle => cases decides.symm.trans idle
  | undecided idle _ ih =>
      cases again with
      | decided decides => cases decides.symm.trans idle
      | undecided _ later => exact ih later
  | interrupted =>
      cases again
      exact ⟨rfl, rfl⟩
  | finished =>
      cases again
      exact ⟨rfl, rfl⟩
  | ended =>
      cases again
      exact ⟨rfl, rfl⟩

/-- What decides something is something that a line can say. -/
theorem Answers.exists_text {inputs left : List Input} {value : α}
    (answers : Answers decisive inputs (.value value) left) :
    ∃ text, decisive text = some value := by
  generalize same : Prompted.value value = outcome at answers
  induction answers with
  | decided decides =>
      cases same
      exact ⟨_, decides⟩
  | undecided _ _ ih => exact ih same
  | interrupted => cases same
  | finished => cases same
  | ended => cases same

/-- A line is accepted for a number when it spells the number and the number is offered. -/
theorem index?_eq_some_iff {greatest number : Nat} {line : String} :
    index? greatest line = some number ↔
      Decimal.read? Decimal.wordBound (Text.trim line) = some number ∧
        1 ≤ number ∧ number ≤ greatest := by
  unfold index?
  cases Decimal.read? Decimal.wordBound (Text.trim line) with
  | none => exact ⟨nofun, fun spelled => nomatch spelled.1⟩
  | some other =>
      simp only
      split
      next within =>
        constructor
        · rintro ⟨⟩
          exact ⟨rfl, within⟩
        · rintro ⟨⟨⟩, -⟩
          rfl
      next beyond =>
        constructor
        · exact nofun
        · rintro ⟨⟨⟩, within⟩
          exact absurd within beyond

/-- **Asking that is not dropped comes to what the user decides**, and to a fault only when
the input cannot be read before the user has decided anything. -/
theorem answers_of_askAmong {prompt retry : String} {limit : Nat} {inputs : List Input}
    {timeline : Timeline} {result : Except Fault (Prompted α)} {terminal : Terminal}
    (asked : askAmong prompt retry decisive limit inputs timeline = (some result, terminal)) :
    match result with
    | .ok outcome => Answers decisive inputs outcome terminal.inputs
    | .error _ => ∀ outcome left, ¬ Answers decisive inputs outcome left := by
  induction inputs generalizing timeline with
  | nil =>
      cases asked
      exact .ended
  | cons input rest ih =>
      obtain ⟨delay, answer⟩ := input
      unfold askAmong at asked
      simp only at asked
      split at asked
      next =>
        cases answer with
        | line text =>
            simp only at asked
            split at asked
            next value decides =>
              cases asked
              exact .decided decides
            next idle =>
              have later := ih asked
              cases result with
              | ok outcome => exact .undecided idle later
              | error fault =>
                  rintro outcome left (decides | ⟨_, further⟩)
                  · cases decides.symm.trans idle
                  · exact later outcome left further
        | interrupted =>
            cases asked
            exact .interrupted
        | finished =>
            cases asked
            exact .finished
        | fault fault =>
            cases asked
            exact nofun
      next => cases asked

end Commissioner.Terminal
