import Commissioner.Proofs.Text.Utf8

/-!
# The spelling of texts in octets

Each character is spelled by octets of its own: one of ASCII by its number, one beyond ASCII by
octets that all lie beyond ASCII. Reading octets strictly undoes the spelling: octets that can be
read are the spelling of the text that was read (`Utf8.ofText_of_read`), so different octets are
never read as the same text.
-/

set_option autoImplicit false

namespace Commissioner.Utf8

/-! ## Spelling a character -/

/-- A character of ASCII is spelled by its number. -/
theorem utf8EncodeChar_of_ascii {c : Char} (low : c.toNat < 0x80) :
    String.utf8EncodeChar c = [UInt8.ofNat c.toNat] :=
  if_pos (Nat.le_of_lt_succ low)

theorem ascii_ofNat {c : Char} (low : c.toNat < 0x80) : ascii (UInt8.ofNat c.toNat) = c := by
  rw [ascii, UInt8.toNat_ofNat', Nat.mod_eq_of_lt (by omega), Char.ofNat_toNat]

/-- What holds of the characters of ASCII can be found out one by one. -/
theorem forall_ascii {P : Char → Prop} (every : ∀ n < 0x80, P (Char.ofNat n)) {c : Char}
    (low : c.toNat < 0x80) : P c := by
  have this := every c.toNat low
  rwa [Char.ofNat_toNat] at this

theorem utf8EncodeChar_of_two {c : Char} (low : 0x80 ≤ c.toNat) (high : c.toNat < 0x800) :
    String.utf8EncodeChar c =
      [UInt8.ofNat (c.toNat / 64 % 32 + 192), UInt8.ofNat (c.toNat % 64 + 128)] := by
  have one : ¬ c.val.toNat ≤ 127 := Nat.not_le_of_lt low
  have two : c.val.toNat ≤ 2047 := Nat.le_of_lt_succ high
  simp only [String.utf8EncodeChar, if_neg one, if_pos two]
  rfl

theorem utf8EncodeChar_of_three {c : Char} (low : 0x800 ≤ c.toNat) (high : c.toNat < 0x10000) :
    String.utf8EncodeChar c =
      [UInt8.ofNat (c.toNat / 4096 % 16 + 224), UInt8.ofNat (c.toNat / 64 % 64 + 128),
        UInt8.ofNat (c.toNat % 64 + 128)] := by
  have one : ¬ c.val.toNat ≤ 127 := Nat.not_le_of_lt (Nat.le_trans (by decide) low)
  have two : ¬ c.val.toNat ≤ 2047 := Nat.not_le_of_lt low
  have three : c.val.toNat ≤ 65535 := Nat.le_of_lt_succ high
  simp only [String.utf8EncodeChar, if_neg one, if_neg two, if_pos three]
  rfl

theorem utf8EncodeChar_of_four {c : Char} (low : 0x10000 ≤ c.toNat) :
    String.utf8EncodeChar c =
      [UInt8.ofNat (c.toNat / 262144 % 8 + 240), UInt8.ofNat (c.toNat / 4096 % 64 + 128),
        UInt8.ofNat (c.toNat / 64 % 64 + 128), UInt8.ofNat (c.toNat % 64 + 128)] := by
  have one : ¬ c.val.toNat ≤ 127 := Nat.not_le_of_lt (Nat.le_trans (by decide) low)
  have two : ¬ c.val.toNat ≤ 2047 := Nat.not_le_of_lt (Nat.le_trans (by decide) low)
  have three : ¬ c.val.toNat ≤ 65535 := Nat.not_le_of_lt low
  simp only [String.utf8EncodeChar, if_neg one, if_neg two, if_neg three]
  rfl

/-- A character beyond ASCII is spelled by octets beyond ASCII. -/
theorem high_utf8EncodeChar {c : Char} (beyond : 0x80 ≤ c.toNat) :
    High (String.utf8EncodeChar c) := by
  by_cases two : c.toNat < 0x800
  case pos =>
    rw [utf8EncodeChar_of_two beyond two]
    simp only [High, List.forall_mem_cons, UInt8.toNat_ofNat']
    exact ⟨by omega, by omega, List.forall_mem_nil _⟩
  case neg =>
    by_cases three : c.toNat < 0x10000
    case pos =>
      rw [utf8EncodeChar_of_three (Nat.not_lt.mp two) three]
      simp only [High, List.forall_mem_cons, UInt8.toNat_ofNat']
      exact ⟨by omega, by omega, by omega, List.forall_mem_nil _⟩
    case neg =>
      rw [utf8EncodeChar_of_four (Nat.not_lt.mp three)]
      simp only [High, List.forall_mem_cons, UInt8.toNat_ofNat']
      exact ⟨by omega, by omega, by omega, by omega, List.forall_mem_nil _⟩

/-! ## Reading what was spelled -/

/-- The second octet of a character continues it, like those behind it. -/
theorem isTail_of_within_secondBounds {lead octet : UInt8}
    (second : within (secondBounds lead).1 (secondBounds lead).2 octet = true) :
    isTail octet = true := by
  have upper : (secondBounds lead).2.toNat ≤ 0xBF := by
    unfold secondBounds
    split_ifs <;> decide
  have lower := le_of_within_secondBounds second
  have within := (within_iff.mp second).2
  exact isTail_iff.mpr ⟨lower, Nat.le_trans within upper⟩

/-- **A character that is read is spelled by the octets that it was read from.** -/
theorem utf8EncodeChar_of_first {lead : UInt8} {rest : Octets} {c : Char} {more : Nat}
    (found : first lead rest = .char c more) :
    String.utf8EncodeChar c = lead :: rest.take more := by
  by_cases low : lead < 0x80
  case pos =>
    cases (first_of_low low rest).symm.trans found
    have same : (Char.ofNat lead.toNat).toNat = lead.toNat := toNat_ascii low
    rw [utf8EncodeChar_of_ascii (by rw [same]; exact low_iff.mp low), same, UInt8.ofNat_toNat]
    rfl
  case neg =>
    revert found
    fun_cases first lead rest with
    | case1 => contradiction
    | case3 _ two b behind second =>
        rintro ⟨⟩
        have leads := within_iff.mp two
        have tails := isTail_iff.mp second
        obtain ⟨same, beyond⟩ := toNat_of_two (b := b) two
        simp only [tailBits, UInt8.reduceToNat] at leads same beyond
        rw [tailBits, utf8EncodeChar_of_two (by omega) (by omega), same]
        simp only [List.take, List.cons.injEq, UInt8.ofNat_eq_iff_mod_eq_toNat]
        exact ⟨by omega, by omega, trivial⟩
    | case7 _ _ three b second c behind third =>
        rintro ⟨⟩
        have leads := within_iff.mp three
        have seconds := isTail_iff.mp (isTail_of_within_secondBounds second)
        have tails := isTail_iff.mp third
        obtain ⟨same, beyond⟩ := toNat_of_three (c := c) three second
        simp only [tailBits, UInt8.reduceToNat] at leads same beyond
        rw [tailBits, tailBits, utf8EncodeChar_of_three (by omega) (by omega), same]
        simp only [List.take, List.cons.injEq, UInt8.ofNat_eq_iff_mod_eq_toNat]
        exact ⟨by omega, by omega, by omega, trivial⟩
    | case13 _ _ _ four b second c third d behind fourth =>
        rintro ⟨⟩
        have leads := within_iff.mp four
        have seconds := isTail_iff.mp (isTail_of_within_secondBounds second)
        have thirds := isTail_iff.mp third
        have tails := isTail_iff.mp fourth
        obtain ⟨same, beyond⟩ := toNat_of_four (c := c) (d := d) four second
        simp only [tailBits, UInt8.reduceToNat] at leads same beyond
        rw [tailBits, tailBits, tailBits, utf8EncodeChar_of_four (by omega), same]
        simp only [List.take, List.cons.injEq, UInt8.ofNat_eq_iff_mod_eq_toNat]
        exact ⟨by omega, by omega, by omega, by omega, trivial⟩
    | _ => rintro ⟨⟩

/-- Characters that are read off pieces are spelled by the octets of the pieces. -/
theorem flatMap_of_readPieces (octets : Octets) :
    ∀ {start : Nat} {chars : List Char}, readPieces start (pieces octets) = .ok chars →
      chars.flatMap String.utf8EncodeChar = octets := by
  induction octets using pieces.induct
  case case1 =>
    intro start chars found
    rw [pieces] at found
    cases found
    rfl
  case case2 lead rest piece ih =>
    intro start chars found
    have front : first lead rest = piece := rfl
    rw [pieces, front] at found
    clear_value piece
    cases piece with
    | stray => cases found
    | cut => cases found
    | char c more =>
        rw [readPieces] at found
        cases behind : readPieces (start + more + 1) (pieces (rest.drop more)) with
        | error => rw [Piece.more, behind] at found; cases found
        | ok tail =>
            rw [Piece.more, behind] at found
            cases found
            rw [List.flatMap_cons, utf8EncodeChar_of_first front, ih behind, List.cons_append,
              Piece.more, List.take_append_drop]

/-- **Octets that can be read spell the text that is read**, so that no others are read as it. -/
theorem ofText_of_read {octets : Octets} {chars : List Char} (found : read octets = .ok chars) :
    Octets.ofText (String.ofList chars) = octets := by
  rw [Octets.ofText, String.toList_ofList]
  exact flatMap_of_readPieces octets found

end Commissioner.Utf8
