import Mathlib.Data.List.Basic
import Commissioner.Text.Decimal

/-!
# Numbers that texts spell

Digits spell their value, and a plus sign in front of them changes nothing. A number is read from
a text just when the text spells it and it is within the bound (`Decimal.read?_eq_some_iff`).
-/

set_option autoImplicit false

namespace Commissioner.Decimal

/-- One or more ASCII digits have this value. -/
def Digits (digits : List Char) (number : Nat) : Prop :=
  digits ≠ [] ∧ (∀ c ∈ digits, c.isDigit = true) ∧ Nat.ofDigitChars 10 digits 0 = number

/-- A text spells a number, with a plus sign allowed in front of the digits. -/
def Spells (text : String) (number : Nat) : Prop :=
  ∃ digits, Digits digits number ∧ (text.toList = digits ∨ text.toList = '+' :: digits)

theorem digit?_of_isDigit {c : Char} (digit : c.isDigit = true) :
    digit? c = some (c.toNat - 48) := by
  simp only [Char.isDigit, Bool.and_eq_true, decide_eq_true_eq, ge_iff_le] at digit
  exact if_pos digit

theorem isDigit_of_digit? {c : Char} {digit : Nat} (read : digit? c = some digit) :
    c.isDigit = true := by
  unfold digit? at read
  split at read
  next within =>
    simp only [Char.isDigit, Bool.and_eq_true, decide_eq_true_eq, ge_iff_le]
    exact within
  next => cases read

/-- Reading digits is evaluating them. -/
theorem readFrom_of_digits {digits : List Char} (all : ∀ c ∈ digits, c.isDigit = true)
    (sofar : Nat) : readFrom sofar digits = some (Nat.ofDigitChars 10 digits sofar) := by
  induction digits generalizing sofar with
  | nil => rfl
  | cons c rest ih =>
      rw [readFrom, digit?_of_isDigit (all c List.mem_cons_self)]
      simp only
      rw [ih fun other member => all other (List.mem_cons_of_mem c member), Nat.mul_comm]
      rfl

/-- Nothing but digits is read. -/
theorem isDigit_of_readFrom {chars : List Char} {sofar number : Nat}
    (read : readFrom sofar chars = some number) : ∀ c ∈ chars, c.isDigit = true := by
  induction chars generalizing sofar with
  | nil => simp
  | cons c rest ih =>
      rw [readFrom] at read
      split at read
      next digit first =>
        exact List.forall_mem_cons.mpr ⟨isDigit_of_digit? first, ih read⟩
      next => cases read

theorem readDigits_eq_some_iff {digits : List Char} {number : Nat} :
    readDigits digits = some number ↔ Digits digits number := by
  cases digits with
  | nil =>
      constructor
      · rintro ⟨⟩
      · exact fun spelled => absurd rfl spelled.1
  | cons c rest =>
      constructor
      · intro read
        have all := isDigit_of_readFrom read
        have value := (readFrom_of_digits all 0).symm.trans read
        exact ⟨List.cons_ne_nil c rest, all, Option.some.inj value⟩
      · rintro ⟨-, all, rfl⟩
        exact readFrom_of_digits all 0

/-- No number begins with a plus sign in its digits. -/
theorem not_digits_plus {rest : List Char} {number : Nat} : ¬ Digits ('+' :: rest) number := by
  rintro ⟨-, all, -⟩
  exact absurd (all _ List.mem_cons_self) (by decide)

theorem readChars_eq_some_iff {bound number : Nat} {chars : List Char} :
    readChars bound chars = some number ↔
      (∃ digits, Digits digits number ∧ (chars = digits ∨ chars = '+' :: digits)) ∧
        number ≤ bound := by
  constructor
  · intro read
    unfold readChars at read
    simp only at read
    split at read
    next other spelled =>
      obtain ⟨within, same⟩ := Option.ite_none_right_eq_some.mp read
      cases same
      refine ⟨?_, within⟩
      split at spelled
      next rest => exact ⟨rest, readDigits_eq_some_iff.mp spelled, .inr rfl⟩
      next => exact ⟨chars, readDigits_eq_some_iff.mp spelled, .inl rfl⟩
    next => cases read
  · rintro ⟨⟨digits, spelled, rfl | rfl⟩, within⟩
    · unfold readChars
      split
      next => exact absurd spelled not_digits_plus
      next =>
        rw [readDigits_eq_some_iff.mpr spelled]
        exact if_pos within
    · unfold readChars
      simp only
      rw [readDigits_eq_some_iff.mpr spelled]
      exact if_pos within

/-- A number is read from the texts that spell it. -/
theorem read?_eq_some_iff {bound number : Nat} {text : String} :
    read? bound text = some number ↔ Spells text number ∧ number ≤ bound :=
  readChars_eq_some_iff

/-- Every number within the bound is read from its digits. -/
theorem readChars_toDigits {bound number : Nat} (within : number ≤ bound) :
    readChars bound (Nat.toDigits 10 number) = some number := by
  refine readChars_eq_some_iff.mpr ⟨⟨_, ⟨Nat.toDigits_ne_nil, ?_, ?_⟩, .inl rfl⟩, within⟩
  · exact fun _ member => Nat.isDigit_of_mem_toDigits (by decide) (by decide) member
  · exact Nat.ofDigitChars_toDigits (by decide) (by decide)

end Commissioner.Decimal
