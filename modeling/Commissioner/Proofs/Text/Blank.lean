import Mathlib.Data.List.TakeWhile
import Commissioner.Text.Blank

/-!
# Trimming

Trimming splits the blanks off both ends of a text, so that neither the first nor the last
character that is left is a blank. It is the only way to split a text so (`Text.trim_eq_iff`), and
a text without blanks is trimmed already.
-/

set_option autoImplicit false

namespace Commissioner.Text

/-- A text without the blanks at both ends of another. -/
structure Trimmed (text trimmed : String) : Prop where
  /-- Nothing but blanks stands in front of it and behind it. -/
  spelled : ∃ front behind : List Char, text.toList = front ++ trimmed.toList ++ behind ∧
    ∀ c ∈ front ++ behind, isBlank c = true
  /-- Its first character is no blank. -/
  first : ∀ c ∈ trimmed.toList.head?, isBlank c = false
  /-- Its last character is no blank. -/
  last : ∀ c ∈ trimmed.toList.getLast?, isBlank c = false

/-! ## Blanks in front -/

theorem dropWhile_append_of_first {front rest : List Char}
    (blank : ∀ c ∈ front, isBlank c = true) (first : ∀ c ∈ rest.head?, isBlank c = false) :
    (front ++ rest).dropWhile isBlank = rest := by
  rw [List.dropWhile_append_of_pos blank]
  cases rest with
  | nil => rfl
  | cons c rest =>
      exact List.dropWhile_cons_of_neg (by rw [first c rfl]; exact Bool.false_ne_true)

theorem isBlank_of_mem_head?_dropWhile {chars : List Char} {c : Char}
    (head : c ∈ (chars.dropWhile isBlank).head?) : isBlank c = false := by
  have other := List.head?_dropWhile_not isBlank chars
  rw [head] at other
  exact other

/-! ## Blanks at both ends -/

theorem trimChars_eq {front chars behind : List Char}
    (blank : ∀ c ∈ front ++ behind, isBlank c = true)
    (first : ∀ c ∈ chars.head?, isBlank c = false)
    (last : ∀ c ∈ chars.getLast?, isBlank c = false) :
    trimChars (front ++ chars ++ behind) = chars := by
  obtain ⟨before, after⟩ := List.forall_mem_append.mp blank
  unfold trimChars
  by_cases empty : chars = []
  case pos =>
    subst empty
    have all : (front ++ behind ++ []).dropWhile isBlank = [] :=
      dropWhile_append_of_first blank (by rintro c ⟨⟩)
    rw [List.append_nil] at all
    rw [List.append_nil, all]
    rfl
  case neg =>
    have kept : ∀ c ∈ (chars ++ behind).head?, isBlank c = false := by
      intro c head
      obtain ⟨d, rest, rfl⟩ := List.exists_cons_of_ne_nil empty
      exact first c head
    rw [List.append_assoc, dropWhile_append_of_first before kept, List.reverse_append,
      dropWhile_append_of_first (fun c member => after c (List.mem_reverse.mp member))
        (by rwa [List.head?_reverse]), List.reverse_reverse]

theorem trimmed_trim (text : String) : Trimmed text (trim text) := by
  let kept := text.toList.dropWhile isBlank
  have whole : kept = trimChars text.toList ++ (kept.reverse.takeWhile isBlank).reverse := by
    rw [trimChars, ← List.reverse_append, List.takeWhile_append_dropWhile, List.reverse_reverse]
  constructor
  case spelled =>
    refine ⟨text.toList.takeWhile isBlank, (kept.reverse.takeWhile isBlank).reverse, ?_, ?_⟩
    · rw [trim, String.toList_ofList, List.append_assoc, ← whole, List.takeWhile_append_dropWhile]
    · refine List.forall_mem_append.mpr ⟨fun c member => List.mem_takeWhile_imp member, ?_⟩
      exact fun c member => List.mem_takeWhile_imp (List.mem_reverse.mp member)
  case first =>
    rw [trim, String.toList_ofList]
    intro c head
    have found : c ∈ kept.head? := by
      rw [whole, List.head?_append, head]
      rfl
    exact isBlank_of_mem_head?_dropWhile found
  case last =>
    rw [trim, String.toList_ofList, trimChars, List.getLast?_reverse]
    exact fun c head => isBlank_of_mem_head?_dropWhile head

/-- **Trimming is the one way to split the blanks off both ends.** -/
theorem trim_eq_iff {text trimmed : String} : trim text = trimmed ↔ Trimmed text trimmed := by
  constructor
  · rintro rfl
    exact trimmed_trim text
  · rintro ⟨⟨front, behind, spelled, blank⟩, first, last⟩
    rw [trim, spelled, trimChars_eq blank first last, String.ofList_toList]

/-- A text without blanks is trimmed already. -/
theorem trim_eq_self {text : String} (full : ∀ c ∈ text.toList, isBlank c = false) :
    trim text = text := by
  refine trim_eq_iff.mpr ⟨⟨[], [], ?_, List.forall_mem_nil _⟩, ?_, ?_⟩
  · rw [List.nil_append, List.append_nil]
  · exact fun c head => full c (List.mem_of_head? head)
  · exact fun c last => full c (List.mem_of_getLast? last)

end Commissioner.Text
