import Mathlib
import Commissioner.Proofs.Text.Fields
import Commissioner.Text.Utf8

/-!
# ASCII in octets that need not be UTF-8

Any octets can be read as text, with U+FFFD where they are not UTF-8. An ASCII octet stands for
its character in every surrounding: it ends what a character cut off in front of it takes, and
no octets beyond ASCII are read as an ASCII character. So the text in front of an ASCII octet
and the text behind it are read on their own (`lossy_append`), an ASCII run occurs in the text
just when it occurs in the octets (`lossy_infix_lossy_iff`), and cutting the text into fields is
cutting the octets and reading the parts (`split_lossy`).
-/

set_option autoImplicit false

namespace Commissioner.Utf8

/-! ## The octets of a character -/

theorem low_iff {octet : UInt8} : octet < 0x80 ↔ octet.toNat < 0x80 :=
  UInt8.lt_iff_toNat_lt

theorem within_iff {low high octet : UInt8} :
    within low high octet = true ↔ low.toNat ≤ octet.toNat ∧ octet.toNat ≤ high.toNat := by
  simp only [within, Bool.and_eq_true, decide_eq_true_eq, UInt8.le_iff_toNat_le]

theorem isTail_iff {octet : UInt8} :
    isTail octet = true ↔ 0x80 ≤ octet.toNat ∧ octet.toNat ≤ 0xBF :=
  within_iff

theorem le_secondBounds (lead : UInt8) : 0x80 ≤ (secondBounds lead).1.toNat := by
  unfold secondBounds
  split_ifs <;> decide

theorem le_of_within_secondBounds {lead octet : UInt8}
    (second : within (secondBounds lead).1 (secondBounds lead).2 octet = true) :
    0x80 ≤ octet.toNat := by
  have bound := le_secondBounds lead
  have := within_iff.mp second
  omega

/-- A character of two octets has the number that they tell, which lies beyond ASCII. -/
theorem toNat_of_two {lead b : UInt8} (two : within 0xC2 0xDF lead = true) :
    (Char.ofNat (lead.toNat % 32 * 64 + tailBits b)).toNat = lead.toNat % 32 * 64 + tailBits b ∧
      0x80 ≤ lead.toNat % 32 * 64 + tailBits b := by
  have bounds := within_iff.mp two
  simp only [UInt8.reduceToNat] at bounds
  unfold tailBits
  rw [Char.toNat_ofNat, if_pos (.inl (by omega))]
  exact ⟨rfl, by omega⟩

theorem le_toNat_of_two {lead b : UInt8} (two : within 0xC2 0xDF lead = true) :
    0x80 ≤ (Char.ofNat (lead.toNat % 32 * 64 + tailBits b)).toNat := by
  obtain ⟨same, beyond⟩ := toNat_of_two (b := b) two
  rwa [same]

/-- A character of three octets has the number that they tell, which is no surrogate and could
not be told by fewer. -/
theorem toNat_of_three {lead b c : UInt8} (three : within 0xE0 0xEF lead = true)
    (second : within (secondBounds lead).1 (secondBounds lead).2 b = true) :
    (Char.ofNat (lead.toNat % 16 * 4096 + tailBits b * 64 + tailBits c)).toNat =
        lead.toNat % 16 * 4096 + tailBits b * 64 + tailBits c ∧
      0x800 ≤ lead.toNat % 16 * 4096 + tailBits b * 64 + tailBits c := by
  have leads := within_iff.mp three
  have seconds := within_iff.mp second
  unfold tailBits
  have value : (lead.toNat % 16 * 4096 + b.toNat % 64 * 64 + c.toNat % 64).isValidChar ∧
      0x800 ≤ lead.toNat % 16 * 4096 + b.toNat % 64 * 64 + c.toNat % 64 := by
    unfold Nat.isValidChar
    unfold secondBounds at seconds
    split_ifs at seconds <;> simp only [← UInt8.toNat_inj, UInt8.reduceToNat] at * <;> omega
  exact ⟨by rw [Char.toNat_ofNat, if_pos value.1], value.2⟩

theorem le_toNat_of_three {lead b c : UInt8} (three : within 0xE0 0xEF lead = true)
    (second : within (secondBounds lead).1 (secondBounds lead).2 b = true) :
    0x80 ≤ (Char.ofNat (lead.toNat % 16 * 4096 + tailBits b * 64 + tailBits c)).toNat := by
  obtain ⟨same, beyond⟩ := toNat_of_three (c := c) three second
  rw [same]
  omega

/-- A character of four octets has the number that they tell, which lies not behind the last
character and could not be told by fewer. -/
theorem toNat_of_four {lead b c d : UInt8} (four : within 0xF0 0xF4 lead = true)
    (second : within (secondBounds lead).1 (secondBounds lead).2 b = true) :
    (Char.ofNat (lead.toNat % 8 * 262144 + tailBits b * 4096 + tailBits c * 64
        + tailBits d)).toNat =
        lead.toNat % 8 * 262144 + tailBits b * 4096 + tailBits c * 64 + tailBits d ∧
      0x10000 ≤ lead.toNat % 8 * 262144 + tailBits b * 4096 + tailBits c * 64 + tailBits d := by
  have leads := within_iff.mp four
  have seconds := within_iff.mp second
  unfold tailBits
  have value : (lead.toNat % 8 * 262144 + b.toNat % 64 * 4096 + c.toNat % 64 * 64
        + d.toNat % 64).isValidChar ∧
      0x10000 ≤ lead.toNat % 8 * 262144 + b.toNat % 64 * 4096 + c.toNat % 64 * 64
        + d.toNat % 64 := by
    unfold Nat.isValidChar
    unfold secondBounds at seconds
    split_ifs at seconds <;> simp only [← UInt8.toNat_inj, UInt8.reduceToNat] at * <;> omega
  exact ⟨by rw [Char.toNat_ofNat, if_pos value.1], value.2⟩

theorem le_toNat_of_four {lead b c d : UInt8} (four : within 0xF0 0xF4 lead = true)
    (second : within (secondBounds lead).1 (secondBounds lead).2 b = true) :
    0x80 ≤ (Char.ofNat (lead.toNat % 8 * 262144 + tailBits b * 4096 + tailBits c * 64
      + tailBits d)).toNat := by
  obtain ⟨same, beyond⟩ := toNat_of_four (c := c) (d := d) four second
  rw [same]
  omega

/-! ## The first piece -/

/-- All of the octets lie beyond ASCII. -/
def High (octets : Octets) : Prop :=
  ∀ octet ∈ octets, 0x80 ≤ octet.toNat

theorem High.nil : High [] :=
  List.forall_mem_nil _

theorem High.cons {octet : UInt8} {octets : Octets} (first : 0x80 ≤ octet.toNat)
    (others : High octets) : High (octet :: octets) :=
  List.forall_mem_cons.mpr ⟨first, others⟩

/-- A piece that lies beyond ASCII, in the octets that it takes and in what it shows. -/
structure Foreign (rest : Octets) (piece : Piece) : Prop where
  inside : piece.more ≤ rest.length
  taken : High (rest.take piece.more)
  shown : 0x80 ≤ piece.shown.toNat

theorem Foreign.of_taken {piece : Piece} (taken behind : Octets)
    (more : piece.more = taken.length) (high : High taken) (shown : 0x80 ≤ piece.shown.toNat) :
    Foreign (taken ++ behind) piece where
  inside := by
    rw [more, List.length_append]
    omega
  taken := by
    rw [more, List.take_left]
    exact high
  shown := shown

theorem first_of_low {lead : UInt8} (low : lead < 0x80) (rest : Octets) :
    first lead rest = .char (Char.ofNat lead.toNat) 0 :=
  if_pos low

theorem foreign_first {lead : UInt8} (high : ¬ lead < 0x80) (rest : Octets) :
    Foreign rest (first lead rest) := by
  fun_cases first lead rest with
  | case1 => contradiction
  | case2 | case4 | case5 | case9 | case10 | case16 | case17 =>
      exact .of_taken [] _ rfl .nil (by decide)
  | case3 _ two b behind second =>
      exact .of_taken [b] behind rfl (.cons (isTail_iff.mp second).1 .nil) (le_toNat_of_two two)
  | case6 _ _ _ b second | case11 _ _ _ _ b second =>
      exact .of_taken [b] [] rfl (.cons (le_of_within_secondBounds second) .nil) (by decide)
  | case8 _ _ _ b second c behind | case15 _ _ _ _ b second c behind =>
      exact .of_taken [b] (c :: behind) rfl (.cons (le_of_within_secondBounds second) .nil)
        (by decide)
  | case7 _ _ three b second c behind third =>
      exact .of_taken [b, c] behind rfl
        (.cons (le_of_within_secondBounds second) (.cons (isTail_iff.mp third).1 .nil))
        (le_toNat_of_three three second)
  | case12 _ _ _ _ b second c third =>
      exact .of_taken [b, c] [] rfl
        (.cons (le_of_within_secondBounds second) (.cons (isTail_iff.mp third).1 .nil)) (by decide)
  | case14 _ _ _ _ b second c third d behind =>
      exact .of_taken [b, c] (d :: behind) rfl
        (.cons (le_of_within_secondBounds second) (.cons (isTail_iff.mp third).1 .nil)) (by decide)
  | case13 _ _ _ four b second c third d behind fourth =>
      exact .of_taken [b, c, d] behind rfl
        (.cons (le_of_within_secondBounds second)
          (.cons (isTail_iff.mp third).1 (.cons (isTail_iff.mp fourth).1 .nil)))
        (le_toNat_of_four four second)

theorem isTail_of_low {octet : UInt8} (low : octet < 0x80) : isTail octet = false := by
  rw [low_iff] at low
  rw [← Bool.not_eq_true, isTail_iff]
  omega

theorem within_secondBounds_of_low {octet : UInt8} (low : octet < 0x80) (lead : UInt8) :
    within (secondBounds lead).1 (secondBounds lead).2 octet = false := by
  rw [low_iff] at low
  rw [← Bool.not_eq_true]
  intro second
  have := le_of_within_secondBounds second
  omega

/-- An ASCII octet behind the octets does not change what the first piece takes and shows. -/
theorem first_append {octet : UInt8} (low : octet < 0x80) (lead : UInt8) (rest behind : Octets) :
    (first lead (rest ++ octet :: behind)).more = (first lead rest).more ∧
      (first lead (rest ++ octet :: behind)).shown = (first lead rest).shown := by
  have noTail := isTail_of_low low
  have noSecond := within_secondBounds_of_low low lead
  -- Where the octet decides the piece, the character is cut off there as at the end.
  match rest with
  | [] =>
      simp only [first, List.nil_append, noTail, noSecond, Bool.false_eq_true, if_false]
      split_ifs <;> exact ⟨rfl, rfl⟩
  | [_] =>
      simp only [first, List.nil_append, List.cons_append, noTail, Bool.false_eq_true, if_false]
      split_ifs <;> exact ⟨rfl, rfl⟩
  | [_, _] =>
      simp only [first, List.nil_append, List.cons_append, noTail, Bool.false_eq_true, if_false]
      split_ifs <;> exact ⟨rfl, rfl⟩
  | _ :: _ :: _ :: _ => exact ⟨rfl, rfl⟩

/-! ## ASCII in the text -/

/-- The character of an ASCII octet. -/
def ascii (octet : UInt8) : Char :=
  Char.ofNat octet.toNat

theorem toNat_ascii {octet : UInt8} (low : octet < 0x80) : (ascii octet).toNat = octet.toNat := by
  rw [low_iff] at low
  rw [ascii, Char.toNat_ofNat, if_pos (.inl (by omega))]

theorem ascii_inj {octet other : UInt8} (low : octet < 0x80) (lowToo : other < 0x80)
    (same : ascii octet = ascii other) : octet = other := by
  have values := congrArg Char.toNat same
  rw [toNat_ascii low, toNat_ascii lowToo] at values
  exact UInt8.toNat_inj.mp values

theorem lossy_nil : lossy [] = [] := by
  simp [lossy, pieces]

theorem lossy_cons (lead : UInt8) (rest : Octets) :
    lossy (lead :: rest) =
      (first lead rest).shown :: lossy (rest.drop (first lead rest).more) := by
  rw [lossy, pieces]
  rfl

theorem lossy_cons_of_low {lead : UInt8} (low : lead < 0x80) (rest : Octets) :
    lossy (lead :: rest) = ascii lead :: lossy rest := by
  rw [lossy_cons, first_of_low low]
  rfl

/-- **Octets are read on their own up to an ASCII octet and behind it.** -/
theorem lossy_append {octet : UInt8} (low : octet < 0x80) (front behind : Octets) :
    lossy (front ++ octet :: behind) = lossy front ++ ascii octet :: lossy behind := by
  induction front using pieces.induct with
  | case1 => rw [List.nil_append, lossy_cons_of_low low, lossy_nil, List.nil_append]
  | case2 lead rest piece ih =>
      obtain ⟨more, shown⟩ := first_append low lead rest behind
      have inside : (first lead rest).more ≤ rest.length := by
        by_cases ascii : lead < 0x80
        · rw [first_of_low ascii]
          exact Nat.zero_le _
        · exact (foreign_first ascii rest).inside
      rw [List.cons_append, lossy_cons, lossy_cons, more, shown,
        List.drop_append_of_le_length inside, ih, List.cons_append]

/-- A character that a bar cuts off becomes U+FFFD, and the bar stays. -/
example : lossy [0x61, 0xE2, 0x82, 0x7C, 0x62] = ['a', '\uFFFD', '|', 'b'] := by
  cbv

/-- All of the octets are ASCII. -/
def Low (octets : Octets) : Prop :=
  ∀ octet ∈ octets, octet < 0x80

instance (octets : Octets) : Decidable (Low octets) :=
  inferInstanceAs (Decidable (∀ octet ∈ octets, octet < 0x80))

theorem lossy_of_low {octets : Octets} (low : Low octets) :
    lossy octets = octets.map ascii := by
  induction octets with
  | nil => exact lossy_nil
  | cons lead rest ih =>
      obtain ⟨first, others⟩ := List.forall_mem_cons.mp low
      rw [lossy_cons_of_low first, ih others, List.map_cons]

/-- An ASCII run begins the text just when it begins the octets. -/
theorem map_ascii_prefix_lossy_iff {mark : Octets} (low : Low mark) (octets : Octets) :
    mark.map ascii <+: lossy octets ↔ mark <+: octets := by
  induction mark generalizing octets with
  | nil => simp
  | cons octet mark ih =>
      obtain ⟨first, others⟩ := List.forall_mem_cons.mp low
      cases octets with
      | nil => simp [lossy_nil]
      | cons lead rest =>
          rw [List.map_cons, List.cons_prefix_cons]
          by_cases ascii : lead < 0x80
          · rw [lossy_cons_of_low ascii, List.cons_prefix_cons, ih others]
            exact and_congr_left' ⟨ascii_inj first ascii, congrArg _⟩
          · have shown := (foreign_first ascii rest).shown
            have value := toNat_ascii first
            rw [low_iff] at first ascii
            rw [lossy_cons, List.cons_prefix_cons]
            constructor
            · rintro ⟨same, -⟩
              rw [← same] at shown
              omega
            · rintro ⟨rfl, -⟩
              exact absurd first ascii

/-- No run that begins with ASCII begins within octets beyond ASCII. -/
theorem infix_append_of_high {octet : UInt8} (low : octet < 0x80) {mark taken : Octets}
    (high : High taken) (behind : Octets) :
    octet :: mark <:+: taken ++ behind ↔ octet :: mark <:+: behind := by
  induction taken with
  | nil => rfl
  | cons other taken ih =>
      obtain ⟨first, others⟩ := List.forall_mem_cons.mp high
      rw [List.cons_append, List.infix_cons_iff, ih others, List.cons_prefix_cons, or_iff_right]
      rintro ⟨rfl, -⟩
      rw [low_iff] at low
      omega

/-- **An ASCII run occurs in the text just when it occurs in the octets.** -/
theorem lossy_infix_lossy_iff {mark : Octets} (low : Low mark) (octets : Octets) :
    lossy mark <:+: lossy octets ↔ mark <:+: octets := by
  rw [lossy_of_low low]
  induction octets using pieces.induct with
  | case1 => rw [lossy_nil, List.infix_nil, List.infix_nil, List.map_eq_nil_iff]
  | case2 lead rest piece ih =>
      rw [lossy_cons, List.infix_cons_iff, ← lossy_cons, map_ascii_prefix_lossy_iff low, ih,
        List.infix_cons_iff]
      refine or_congr_right ?_
      by_cases ascii : lead < 0x80
      · have : piece = _ := first_of_low ascii rest
        rw [this]
        rfl
      · cases mark with
        | nil => simp
        | cons octet mark =>
            have first : octet < 0x80 := low octet List.mem_cons_self
            have taken := (foreign_first ascii rest).taken
            rw [← infix_append_of_high first taken (rest.drop piece.more), List.take_append_drop]

theorem ascii_mem_lossy_iff {octet : UInt8} (low : octet < 0x80) (octets : Octets) :
    ascii octet ∈ lossy octets ↔ octet ∈ octets := by
  have single : Low [octet] := List.forall_mem_singleton.mpr low
  have occurs := lossy_infix_lossy_iff single octets
  rwa [lossy_of_low single, List.map_singleton, List.singleton_infix_iff,
    List.singleton_infix_iff] at occurs

/-- **The fields of the text are the fields of the octets, each read on its own.** -/
theorem split_lossy {separator : UInt8} (low : separator < 0x80) (octets : Octets) :
    Fields.split (ascii separator) (lossy octets) =
      (Fields.split separator octets).map lossy := by
  by_cases inside : separator ∈ octets
  · obtain ⟨front, behind, rfl, clean⟩ := List.eq_append_cons_of_mem inside
    have unread := mt (ascii_mem_lossy_iff low front).mp clean
    rw [lossy_append low, Fields.split_append_cons unread, Fields.split_append_cons clean,
      List.map_cons, split_lossy low behind]
  · have unread := mt (ascii_mem_lossy_iff low octets).mp inside
    rw [Fields.split_of_not_mem unread, Fields.split_of_not_mem inside, List.map_singleton]
termination_by octets.length
decreasing_by
  subst_vars
  simp only [List.length_append, List.length_cons]
  omega

end Commissioner.Utf8
