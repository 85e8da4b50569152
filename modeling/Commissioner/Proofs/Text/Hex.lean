import Commissioner.Proofs.Text.Spelling
import Commissioner.Text.Hex

/-!
# Hexadecimal texts

A text is hexadecimal when it holds an even number of ASCII digits, in either case
(`Hex.Hexadecimal`). Just such texts are read, and the octets that are read are written as the text
in lower case (`Hex.decode_eq_ok_iff`), so nothing is lost when octets are written
(`Hex.decode_encode`). Any other text is refused for an odd number of octets, or else for the
first octet that is no digit (`Hex.decode_eq_error_iff`).
-/

set_option autoImplicit false

namespace Commissioner.Hex

/-- A digit, in either case. -/
def isDigit (c : Char) : Bool :=
  ('0' ≤ c && c ≤ '9') || ('a' ≤ c && c ≤ 'f') || ('A' ≤ c && c ≤ 'F')

/-- A text of pairs of digits, in either case. -/
def Hexadecimal (text : String) : Prop :=
  text.length % 2 = 0 ∧ ∀ c ∈ text.toList, isDigit c = true

instance (text : String) : Decidable (Hexadecimal text) :=
  inferInstanceAs (Decidable (_ ∧ _))

/-! ## One digit -/

/-- The value of a digit is below sixteen, and it is the digit of that value in lower case. -/
theorem digit_of_value? {octet : UInt8} {n : Nat} (value : value? octet = some n) :
    n < 16 ∧ digit n = (Utf8.ascii octet).toLower := by
  have every : ∀ octet : UInt8, ∀ n ∈ value? octet,
      n < 16 ∧ digit n = (Utf8.ascii octet).toLower := by decide +kernel
  exact every octet n value

/-- An octet has no value when the character of that number is no digit. -/
theorem value?_eq_none_iff : ∀ {octet : UInt8},
    value? octet = none ↔ isDigit (Utf8.ascii octet) = false := by
  decide +kernel

theorem value?_ne_none_iff {octet : UInt8} :
    value? octet ≠ none ↔ isDigit (Utf8.ascii octet) = true := by
  rw [Ne, value?_eq_none_iff, Bool.not_eq_false]

theorem value?_eq_none_of_high {octet : UInt8} (high : 0x80 ≤ octet.toNat) :
    value? octet = none := by
  unfold value?
  simp only
  rw [if_neg (by omega), if_neg (by omega), if_neg (by omega)]

theorem toNat_lt_of_isDigit {c : Char} (digit : isDigit c = true) : c.toNat < 0x80 := by
  simp only [isDigit, Bool.or_eq_true, Bool.and_eq_true, decide_eq_true_eq, Char.le_def,
    UInt32.le_iff_toNat_le] at digit
  have value : c.toNat = c.val.toNat := rfl
  rcases digit with (⟨-, upper⟩ | ⟨-, upper⟩) | ⟨-, upper⟩
  all_goals
    rw [value]
    exact Nat.lt_of_le_of_lt upper (by decide)

/-- A character is a digit when the octets that spell it are. -/
theorem forall_mem_utf8EncodeChar_iff {c : Char} :
    (∀ octet ∈ String.utf8EncodeChar c, value? octet ≠ none) ↔ isDigit c = true := by
  by_cases low : c.toNat < 0x80
  case pos =>
    rw [Utf8.utf8EncodeChar_of_ascii low, List.forall_mem_singleton, value?_ne_none_iff,
      Utf8.ascii_ofNat low]
  case neg =>
    have beyond := Nat.not_lt.mp low
    have spelled : String.utf8EncodeChar c ≠ [] := by
      rw [← List.length_pos_iff, String.length_utf8EncodeChar]
      exact c.utf8Size_pos
    obtain ⟨octet, member⟩ := List.exists_mem_of_ne_nil _ spelled
    have none := value?_eq_none_of_high (Utf8.high_utf8EncodeChar beyond octet member)
    exact iff_of_false (fun digits => digits octet member none)
      fun digit => low (toNat_lt_of_isDigit digit)

/-! ## The octets of a text -/

/-- The octets that spell a text are digits just when its characters are. -/
theorem forall_mem_ofText_iff {text : String} :
    (∀ octet ∈ Octets.ofText text, value? octet ≠ none) ↔
      ∀ c ∈ text.toList, isDigit c = true := by
  simp only [Octets.ofText, List.mem_flatMap]
  constructor
  · exact fun every c member =>
      forall_mem_utf8EncodeChar_iff.mp fun octet inside => every octet ⟨c, member, inside⟩
  · rintro every octet ⟨c, member, inside⟩
    exact forall_mem_utf8EncodeChar_iff.mpr (every c member) octet inside

/-- Each digit of a text is spelled by the octet that stands for it. -/
theorem map_ascii_ofText {text : String} (digits : ∀ c ∈ text.toList, isDigit c = true) :
    (Octets.ofText text).map Utf8.ascii = text.toList := by
  unfold Octets.ofText
  generalize text.toList = chars at digits ⊢
  induction chars with
  | nil => rfl
  | cons c rest ih =>
      obtain ⟨digit, others⟩ := List.forall_mem_cons.mp digits
      have low := toNat_lt_of_isDigit digit
      rw [List.flatMap_cons, List.map_append, ih others, Utf8.utf8EncodeChar_of_ascii low,
        List.map_singleton, Utf8.ascii_ofNat low, List.singleton_append]

/-! ## Writing -/

theorem digit_inj : ∀ m < 16, ∀ n < 16, digit m = digit n → m = n := by
  decide +kernel

theorem encodeChars_cons (octet : UInt8) (octets : Octets) :
    encodeChars (octet :: octets) =
      digit (octet.toNat / 16) :: digit (octet.toNat % 16) :: encodeChars octets := rfl

theorem length_encodeChars (octets : Octets) : (encodeChars octets).length = 2 * octets.length := by
  induction octets with
  | nil => rfl
  | cons octet octets ih =>
      rw [encodeChars_cons, List.length_cons, List.length_cons, ih, List.length_cons]
      omega

/-- Different octets are written differently. -/
theorem encodeChars_inj {octets others : Octets} (same : encodeChars octets = encodeChars others) :
    octets = others := by
  induction octets generalizing others with
  | nil =>
      cases others with
      | nil => rfl
      | cons => cases same
  | cons octet octets ih =>
      cases others with
      | nil => cases same
      | cons other others =>
          have bound := octet.toNat_lt
          have boundToo := other.toNat_lt
          simp only [encodeChars_cons, List.cons.injEq] at same
          obtain ⟨high, low, behind⟩ := same
          have highs := digit_inj _ (by omega) _ (by omega) high
          have lows := digit_inj _ (by omega) _ (by omega) low
          have first : octet = other := UInt8.toNat_inj.mp (by omega)
          rw [first, ih behind]

/-- What is written is digits in lower case. -/
theorem isDigit_of_mem_encodeChars {octets : Octets} {c : Char} (member : c ∈ encodeChars octets) :
    isDigit c = true ∧ c.toLower = c := by
  have every : ∀ n < 16, isDigit (digit n) = true ∧ (digit n).toLower = digit n := by
    decide +kernel
  induction octets with
  | nil => cases member
  | cons octet octets ih =>
      have bound := octet.toNat_lt
      rw [encodeChars_cons] at member
      rcases List.mem_cons.mp member with rfl | member
      · exact every _ (by omega)
      rcases List.mem_cons.mp member with rfl | member
      · exact every _ (by omega)
      · exact ih member

/-! ## Reading -/

/-- Pairs of digits are read, and written as they were in lower case. -/
theorem exists_decodeFrom {digits : Octets} (even : digits.length % 2 = 0)
    (all : ∀ octet ∈ digits, value? octet ≠ none) (position : Nat) :
    ∃ octets, decodeFrom position digits = .ok octets ∧
      encodeChars octets = digits.map fun octet => (Utf8.ascii octet).toLower := by
  fun_induction decodeFrom position digits with
  | case1 position high low rest none => exact absurd none (all high (by simp))
  | case2 position high low rest h _ none => exact absurd none (all low (by simp))
  | case3 position high low rest h highValue l lowValue ih =>
      simp only [List.length_cons] at even
      obtain ⟨_, others⟩ := List.forall_mem_cons.mp (List.forall_mem_cons.mp all).2
      obtain ⟨octets, behind, written⟩ := ih (by omega) others
      obtain ⟨boundHigh, digitHigh⟩ := digit_of_value? highValue
      obtain ⟨boundLow, digitLow⟩ := digit_of_value? lowValue
      refine ⟨UInt8.ofNat (h * 16 + l) :: octets, by rw [behind]; rfl, ?_⟩
      have value : (UInt8.ofNat (h * 16 + l)).toNat = h * 16 + l := by
        rw [UInt8.toNat_ofNat', Nat.mod_eq_of_lt (by omega)]
      have front : (h * 16 + l) / 16 = h := by omega
      have back : (h * 16 + l) % 16 = l := by omega
      rw [encodeChars_cons, value, front, back, digitHigh, digitLow, written, List.map_cons,
        List.map_cons]
  | case4 digits position short =>
      cases digits with
      | nil => exact ⟨[], rfl, rfl⟩
      | cons high rest =>
          cases rest with
          | nil => cases even
          | cons low rest => exact absurd rfl (short high low rest)

/-- The first octet that is no digit is told with its position. -/
theorem decodeFrom_of_flaw {front behind : Octets} {octet : UInt8}
    (clean : ∀ digit ∈ front, value? digit ≠ none) (bad : value? octet = none)
    (even : (front ++ octet :: behind).length % 2 = 0) (position : Nat) :
    decodeFrom position (front ++ octet :: behind) =
      .error (.invalid octet (position + front.length)) := by
  match front with
  | [] =>
      cases behind with
      | nil => cases even
      | cons low rest =>
          simp only [List.nil_append, decodeFrom, bad]
          rfl
  | [high] =>
      obtain ⟨h, value⟩ := Option.ne_none_iff_exists'.mp (clean high List.mem_cons_self)
      simp only [List.cons_append, List.nil_append, decodeFrom, value, bad]
      rfl
  | high :: low :: rest =>
      obtain ⟨first, others⟩ := List.forall_mem_cons.mp clean
      obtain ⟨second, clean⟩ := List.forall_mem_cons.mp others
      obtain ⟨h, highValue⟩ := Option.ne_none_iff_exists'.mp first
      obtain ⟨l, lowValue⟩ := Option.ne_none_iff_exists'.mp second
      simp only [List.cons_append, List.length_cons] at even
      have further : decodeFrom (position + 2) (rest ++ octet :: behind) =
          .error (.invalid octet (position + 2 + rest.length)) :=
        decodeFrom_of_flaw clean bad (by omega) (position + 2)
      have place : position + 2 + rest.length = position + (high :: low :: rest).length := by
        simp only [List.length_cons]
        omega
      simp only [List.cons_append, decodeFrom, highValue, lowValue]
      rw [further, place]
      rfl

/-- The octets of digits are as many as the digits. -/
theorem length_ofText {text : String} (digits : ∀ c ∈ text.toList, isDigit c = true) :
    (Octets.ofText text).length = text.length := by
  rw [← String.length_toList, ← map_ascii_ofText digits, List.length_map]

theorem exists_decode {text : String} (hexadecimal : Hexadecimal text) :
    ∃ octets, decode text = .ok octets ∧ encodeChars octets = text.toList.map Char.toLower := by
  obtain ⟨even, digits⟩ := hexadecimal
  rw [← length_ofText digits] at even
  obtain ⟨octets, found, written⟩ :=
    exists_decodeFrom even (forall_mem_ofText_iff.mpr digits) 0
  refine ⟨octets, ?_, ?_⟩
  · rw [decode, decodeOctets, if_pos even, found]
  · rw [written, ← map_ascii_ofText digits, List.map_map]
    rfl

/-- What keeps octets from being read: their number is odd, or else the first of them that is
no digit. -/
inductive Flawed (digits : Octets) : Flaw → Prop where
  | odd (odd : digits.length % 2 = 1) : Flawed digits .oddLength
  | invalid {front behind : Octets} {octet : UInt8} (spelled : digits = front ++ octet :: behind)
      (even : digits.length % 2 = 0) (clean : ∀ digit ∈ front, isDigit (Utf8.ascii digit) = true)
      (bad : isDigit (Utf8.ascii octet) = false) : Flawed digits (.invalid octet front.length)

theorem decode_of_flawed {text : String} {flaw : Flaw}
    (flawed : Flawed (Octets.ofText text) flaw) : decode text = .error flaw := by
  rw [decode, decodeOctets]
  cases flawed with
  | odd odd => rw [if_neg (by omega)]
  | invalid spelled even clean bad =>
      rw [if_pos even]
      rw [spelled] at even ⊢
      rw [decodeFrom_of_flaw (fun digit member => value?_ne_none_iff.mpr (clean digit member))
        (value?_eq_none_iff.mpr bad) even 0, Nat.zero_add]

/-- Octets have a flaw just when their number is odd or one of them is no digit. -/
theorem exists_flawed_iff {digits : Octets} :
    (∃ flaw, Flawed digits flaw) ↔
      digits.length % 2 = 1 ∨ ∃ octet ∈ digits, isDigit (Utf8.ascii octet) = false := by
  constructor
  · rintro ⟨flaw, odd | ⟨spelled, -, -, bad⟩⟩
    case odd => exact .inl odd
    case invalid octet => exact .inr ⟨octet, by rw [spelled]; simp, bad⟩
  · rintro (odd | ⟨octet, member, bad⟩)
    · exact ⟨_, .odd odd⟩
    by_cases odd : digits.length % 2 = 1
    case pos => exact ⟨_, .odd odd⟩
    case neg =>
      -- The octet told is the first one that is no digit.
      have some : (digits.find? fun octet => !isDigit (Utf8.ascii octet)).isSome = true :=
        List.find?_isSome.mpr ⟨octet, member, by rw [bad]; rfl⟩
      obtain ⟨first, found⟩ := Option.isSome_iff_exists.mp some
      obtain ⟨other, front, behind, spelled, clean⟩ := List.find?_eq_some_iff_append.mp found
      exact ⟨_, .invalid spelled (by omega)
        (fun digit member => by simpa using clean digit member) (by simpa using other)⟩

/-- A text that is not hexadecimal has a flaw. -/
theorem exists_flawed {text : String} (other : ¬ Hexadecimal text) :
    ∃ flaw, Flawed (Octets.ofText text) flaw := by
  refine exists_flawed_iff.mpr (Decidable.byContradiction fun fine => other ?_)
  rw [not_or] at fine
  obtain ⟨even, clean⟩ := fine
  have digits : ∀ c ∈ text.toList, isDigit c = true :=
    forall_mem_ofText_iff.mp fun octet member none =>
      clean ⟨octet, member, value?_eq_none_iff.mp none⟩
  rw [length_ofText digits] at even
  exact ⟨by omega, digits⟩

/-- **A text is read just when it is hexadecimal**, and what is read is written as the text in
lower case. -/
theorem decode_eq_ok_iff {text : String} {octets : Octets} :
    decode text = .ok octets ↔
      Hexadecimal text ∧ encodeChars octets = text.toList.map Char.toLower := by
  constructor
  · intro read
    by_cases hexadecimal : Hexadecimal text
    case pos =>
      obtain ⟨found, same, written⟩ := exists_decode hexadecimal
      cases same.symm.trans read
      exact ⟨hexadecimal, written⟩
    case neg =>
      obtain ⟨flaw, flawed⟩ := exists_flawed hexadecimal
      cases (decode_of_flawed flawed).symm.trans read
  · rintro ⟨hexadecimal, written⟩
    obtain ⟨found, read, same⟩ := exists_decode hexadecimal
    rw [read, encodeChars_inj (same.trans written.symm)]

/-- Any other text is refused for its flaw. -/
theorem decode_eq_error_iff {text : String} {flaw : Flaw} :
    decode text = .error flaw ↔ Flawed (Octets.ofText text) flaw := by
  refine ⟨fun refused => ?_, decode_of_flawed⟩
  by_cases hexadecimal : Hexadecimal text
  case pos =>
    obtain ⟨octets, read, -⟩ := exists_decode hexadecimal
    cases read.symm.trans refused
  case neg =>
    obtain ⟨other, flawed⟩ := exists_flawed hexadecimal
    cases (decode_of_flawed flawed).symm.trans refused
    exact flawed

/-! ## There and back -/

theorem hexadecimal_encode (octets : Octets) : Hexadecimal (encode octets) := by
  refine ⟨?_, fun c member => ?_⟩
  · rw [encode, String.length_ofList, length_encodeChars]
    omega
  · rw [encode, String.toList_ofList] at member
    exact (isDigit_of_mem_encodeChars member).1

/-- **What was written is read back.** -/
theorem decode_encode (octets : Octets) : decode (encode octets) = .ok octets := by
  refine decode_eq_ok_iff.mpr ⟨hexadecimal_encode octets, ?_⟩
  have lower : (encodeChars octets).map Char.toLower = (encodeChars octets).map id :=
    List.map_congr_left fun c member => (isDigit_of_mem_encodeChars member).2
  rw [encode, String.toList_ofList, lower, List.map_id]

end Commissioner.Hex
