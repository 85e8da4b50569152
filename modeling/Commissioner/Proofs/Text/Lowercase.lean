import Commissioner.Text.Lowercase
import Mathlib.Data.List.Forall2

/-!
# Letters in either case

Two characters beyond ASCII have a small letter of ASCII in their lower case: U+212A becomes a
`k`, and U+0130 an `i` with a mark behind it. The other small letters (`plainLetters`) come of
nothing but themselves and their capitals. So a word of such letters is the lower case of a text
just when the text spells it in either case (`lowercase_eq_iff`), whatever else Unicode has.
-/

set_option autoImplicit false

namespace Commissioner.Text

/-- The small letters of ASCII that are in the lower case of no character beyond ASCII. -/
def plainLetters : List Char :=
  "abcdefghjlmnopqrstuvwxyz".toList

/-- A character is a letter or its capital. -/
def EitherCase (letter c : Char) : Prop :=
  c = letter ∨ c = letter.toUpper

instance (letter c : Char) : Decidable (EitherCase letter c) :=
  inferInstanceAs (Decidable (_ ∨ _))

/-- What can be decided for one letter after the other holds for them all. -/
theorem forall_plain {holds : Char → Prop} [DecidablePred holds]
    (all : (plainLetters.all fun letter => decide (holds letter)) = true) :
    ∀ letter ∈ plainLetters, holds letter :=
  fun letter member => of_decide_eq_true (List.all_eq_true.mp all letter member)

/-- Among the first characters a letter is the lower case of itself and its capital. -/
theorem toLower_eq_iff_of_lt : ∀ letter ∈ plainLetters, ∀ n < 0x80,
    (Char.ofNat n).toLower = letter ↔ EitherCase letter (Char.ofNat n) :=
  forall_plain (by decide +kernel)

theorem bounds_of_plain : ∀ letter ∈ plainLetters,
    letter.toNat ≤ 0x7A ∧ letter.toNat ≠ 0x6B ∧ letter.toNat ≠ 0 ∧ letter ≠ 'i' ∧
      letter.toUpper.toNat < 0x80 :=
  forall_plain (by decide +kernel)

/-- No run leads from beyond ASCII to a small letter of ASCII, but for the one that leads to the
letter `k`. -/
theorem bound_of_mem_lowerRuns : ∀ run ∈ CaseTable.lowerRuns,
    run.2.1 < 0x80 ∨ (0x7A : Int) < run.1 + run.2.2.2 ∨ run = (0x212A, 0x212A, 1, -8383) := by
  decide +kernel

/-- A code point is moved by the run that it lies in, or it stays. -/
theorem lowerShift_eq_or (n : Nat) (runs : List (Nat × Nat × Nat × Int)) :
    lowerShift n runs = 0 ∨
      ∃ run ∈ runs, run.1 ≤ n ∧ n ≤ run.2.1 ∧ lowerShift n runs = run.2.2.2 := by
  induction runs with
  | nil => exact .inl rfl
  | cons run runs ih =>
      rw [lowerShift]
      split
      next inside => exact .inr ⟨run, List.mem_cons_self, inside.1, inside.2.1, rfl⟩
      next =>
        rcases ih with stays | ⟨other, member, moves⟩
        · exact .inl stays
        · exact .inr ⟨other, List.mem_cons_of_mem _ member, moves⟩

/-- A number is the code point of its character, if it has one. -/
theorem toNat_ofNat_or (n : Nat) : (Char.ofNat n).toNat = n ∨ (Char.ofNat n).toNat = 0 := by
  by_cases valid : n.isValidChar
  · exact .inl (congrArg Char.toNat (dif_pos valid))
  · exact .inr (congrArg Char.toNat (dif_neg valid))

/-- **No character beyond ASCII is lowered to a plain letter.** -/
theorem ofNat_lowerShift_ne {letter : Char} (plain : letter ∈ plainLetters) {n : Nat}
    (beyond : 0x80 ≤ n) :
    Char.ofNat ((n : Int) + lowerShift n CaseTable.lowerRuns).toNat ≠ letter := by
  intro same
  obtain ⟨small, notK, positive, -, -⟩ := bounds_of_plain letter plain
  have lowered : ((n : Int) + lowerShift n CaseTable.lowerRuns).toNat = letter.toNat := by
    have value := toNat_ofNat_or ((n : Int) + lowerShift n CaseTable.lowerRuns).toNat
    rw [same] at value
    exact (value.resolve_right positive).symm
  rcases lowerShift_eq_or n CaseTable.lowerRuns with stays | ⟨run, member, first, last, moves⟩
  · rw [stays] at lowered
    omega
  · rw [moves] at lowered
    rcases bound_of_mem_lowerRuns run member with ascii | large | rfl
    · omega
    · omega
    · simp only at first last lowered
      omega

/-- A plain letter that begins the lower case of a character is all of it, and the character is
that letter in either case. -/
theorem eitherCase_of_lowerChar {letter c : Char} {more : List Char}
    (plain : letter ∈ plainLetters) (lowered : lowerChar c = letter :: more) :
    more = [] ∧ EitherCase letter c := by
  unfold lowerChar at lowered
  split at lowered
  next ascii =>
    cases lowered
    have either := (toLower_eq_iff_of_lt _ plain c.toNat ascii).mp
    rw [Char.ofNat_toNat] at either
    exact ⟨rfl, either rfl⟩
  next beyond =>
    split at lowered
    next =>
      cases lowered
      obtain ⟨-, -, -, notI, -⟩ := bounds_of_plain _ plain
      exact absurd rfl notI
    next =>
      cases lowered
      exact absurd rfl (ofNat_lowerShift_ne plain (Nat.not_lt.mp beyond))

theorem lowerChar_of_eitherCase {letter c : Char} (plain : letter ∈ plainLetters)
    (either : EitherCase letter c) : lowerChar c = [letter] := by
  obtain ⟨small, -, -, -, capital⟩ := bounds_of_plain letter plain
  have ascii : c.toNat < 0x80 := by
    rcases either with rfl | rfl
    · omega
    · exact capital
  have lowered := (toLower_eq_iff_of_lt letter plain c.toNat ascii).mpr
  rw [Char.ofNat_toNat] at lowered
  rw [lowerChar, if_pos ascii, lowered either]

theorem lowerChar_ne_nil (c : Char) : lowerChar c ≠ [] := by
  unfold lowerChar
  split_ifs
  all_goals exact List.cons_ne_nil _ _

theorem lowerFrom_cons_of_ne {c : Char} (other : c ≠ 'Σ') (before rest : List Char) :
    lowerFrom before (c :: rest) = lowerChar c ++ lowerFrom (c :: before) rest := by
  rw [lowerFrom]
  simp only [if_neg other]

/-- A capital sigma becomes one of the two small ones. -/
theorem exists_lowerFrom_sigma (before rest : List Char) :
    ∃ small, (small = 'ς' ∨ small = 'σ') ∧
      lowerFrom before ('Σ' :: rest) = small :: lowerFrom ('Σ' :: before) rest := by
  rw [lowerFrom]
  simp only [if_true]
  split
  · exact ⟨_, .inl rfl, rfl⟩
  · exact ⟨_, .inr rfl, rfl⟩

/-- No plain letter is a sigma. -/
theorem ne_sigma_of_plain : ∀ letter ∈ plainLetters,
    letter ≠ 'ς' ∧ letter ≠ 'σ' ∧ ¬ EitherCase letter 'Σ' :=
  forall_plain (by decide +kernel)

/-- A word of plain letters is the lower case of characters that spell it in either case. -/
theorem lowerFrom_eq_iff {word : List Char} (plain : ∀ letter ∈ word, letter ∈ plainLetters)
    (before chars : List Char) :
    lowerFrom before chars = word ↔ List.Forall₂ EitherCase word chars := by
  induction chars generalizing before word with
  | nil =>
      cases word with
      | nil => exact iff_of_true rfl .nil
      | cons => exact iff_of_false nofun nofun
  | cons c rest ih =>
      by_cases capital : c = 'Σ'
      case pos =>
        subst capital
        obtain ⟨small, sigma, begins⟩ := exists_lowerFrom_sigma before rest
        rw [begins]
        refine iff_of_false ?_ ?_
        · rintro rfl
          obtain ⟨notFinal, notSigma, -⟩ := ne_sigma_of_plain small (plain _ List.mem_cons_self)
          exact sigma.elim notFinal notSigma
        · cases word with
          | nil => exact nofun
          | cons letter word =>
              obtain ⟨-, -, notCapital⟩ := ne_sigma_of_plain letter (plain _ List.mem_cons_self)
              exact fun either => notCapital (List.forall₂_cons.mp either).1
      case neg =>
        rw [lowerFrom_cons_of_ne capital]
        cases word with
        | nil =>
            exact iff_of_false (fun same => lowerChar_ne_nil c (List.append_eq_nil_iff.mp same).1)
              nofun
        | cons letter word =>
            have here := plain letter List.mem_cons_self
            have further : ∀ other ∈ word, other ∈ plainLetters :=
              fun other member => plain other (List.mem_cons_of_mem _ member)
            rw [List.forall₂_cons, ← ih further (c :: before)]
            constructor
            · intro same
              obtain ⟨first, more, lowered⟩ := List.exists_cons_of_ne_nil (lowerChar_ne_nil c)
              rw [lowered, List.cons_append] at same
              obtain ⟨rfl, rest⟩ := List.cons.inj same
              obtain ⟨rfl, either⟩ := eitherCase_of_lowerChar here lowered
              exact ⟨either, rest⟩
            · rintro ⟨either, rest⟩
              rw [lowerChar_of_eitherCase here either, rest]
              rfl

/-- **A word of plain letters is the lower case of a text just when the text spells it**, in
either case. -/
theorem lowercase_eq_iff {text word : String}
    (plain : word.toList.all plainLetters.contains = true) :
    lowercase text = word ↔ List.Forall₂ EitherCase word.toList text.toList := by
  have letters : ∀ letter ∈ word.toList, letter ∈ plainLetters :=
    fun letter member => List.contains_iff_mem.mp (List.all_eq_true.mp plain letter member)
  rw [← lowerFrom_eq_iff letters [], lowercase, ← String.toList_inj, String.toList_ofList]

end Commissioner.Text
