import Commissioner.Proofs.Text.Blank
import Commissioner.Proofs.Text.Hex
import Commissioner.Proofs.Tlv.Canonical
import Commissioner.Dataset

/-!
# Which texts are datasets

A dataset is entered in hexadecimal, with any blanks around it. The texts that are accepted are
those whose trimmed form is hexadecimal, is not empty and holds no more digits than spell the
octets of one record (`Dataset.Import`), and the dataset is shown as that form in lower case. Every
other text is refused for one reason, which the text determines. What a dataset is shown as is
accepted again, and every dataset can be sent as the value of one record
(`Dataset.ofHex_grammar`).
-/

set_option autoImplicit false

namespace Commissioner.Dataset

open Text (trim)

/-! ## From octets -/

theorem ofOctets_eq_ok_iff {octets : Octets} {dataset : Dataset} :
    ofOctets octets = .ok dataset ↔ dataset.octets = octets := by
  constructor
  · intro made
    unfold ofOctets at made
    split at made
    next => cases made
    next =>
      split at made
      next =>
        cases made
        rfl
      next => cases made
  · rintro rfl
    rw [ofOctets, dif_neg dataset.nonempty, dif_pos dataset.fits]

/-- Octets are no dataset when there are none, or more than fit in one record. -/
theorem ofOctets_eq_error_iff {octets : Octets} {error : DatasetError} :
    ofOctets octets = .error error ↔
      octets = [] ∧ error = .empty ∨
        maxValueLength < octets.length ∧ error = .tooLarge octets.length maxValueLength := by
  unfold ofOctets
  split
  next nothing =>
    subst nothing
    simp only [Except.error.injEq, true_and, List.length_nil, Nat.not_lt_zero, false_and, or_false,
      eq_comm]
  next something =>
    split
    next fits => simp only [reduceCtorEq, something, false_and, Nat.not_lt.mpr fits, or_false]
    next large =>
      simp only [Except.error.injEq, something, false_and, Nat.lt_of_not_le large, true_and,
        false_or, eq_comm]

/-! ## From hexadecimal -/

theorem ofHex_eq_ok_iff {text : String} {dataset : Dataset} :
    ofHex text = .ok dataset ↔ Hex.decode (trim text) = .ok dataset.octets := by
  unfold ofHex
  cases Hex.decode (trim text) with
  | error => simp only [reduceCtorEq]
  | ok octets =>
      rw [ofOctets_eq_ok_iff, Except.ok.injEq]
      exact eq_comm

theorem ofHex_eq_invalidHex_iff {text : String} {flaw : Hex.Flaw} :
    ofHex text = .error (.invalidHex flaw) ↔ Hex.decode (trim text) = .error flaw := by
  unfold ofHex
  cases Hex.decode (trim text) with
  | error => simp only [Except.error.injEq, DatasetError.invalidHex.injEq]
  | ok octets => simp only [ofOctets_eq_error_iff, reduceCtorEq, and_false, or_self]

theorem ofHex_eq_empty_iff {text : String} :
    ofHex text = .error .empty ↔ Hex.decode (trim text) = .ok [] := by
  unfold ofHex
  cases Hex.decode (trim text) with
  | error => simp only [Except.error.injEq, reduceCtorEq]
  | ok octets =>
      simp only [ofOctets_eq_error_iff, Except.ok.injEq, reduceCtorEq, and_true, and_false, or_false]

theorem ofHex_eq_tooLarge_iff {text : String} {size limit : Nat} :
    ofHex text = .error (.tooLarge size limit) ↔
      ∃ octets, Hex.decode (trim text) = .ok octets ∧ octets.length = size ∧
        maxValueLength < size ∧ limit = maxValueLength := by
  unfold ofHex
  cases Hex.decode (trim text) with
  | error => simp only [Except.error.injEq, reduceCtorEq, false_and, exists_false]
  | ok octets =>
      simp only [ofOctets_eq_error_iff, reduceCtorEq, and_false, false_or,
        DatasetError.tooLarge.injEq, Except.ok.injEq, exists_eq_left']
      constructor
      · rintro ⟨large, rfl, rfl⟩
        exact ⟨rfl, large, rfl⟩
      · rintro ⟨rfl, large, rfl⟩
        exact ⟨large, rfl, rfl⟩

/-! ## The texts that spell octets -/

/-- The octets that a text spells are half as many as its digits. -/
theorem length_of_decode {text : String} {octets : Octets} (read : Hex.decode text = .ok octets) :
    text.length = 2 * octets.length := by
  obtain ⟨-, written⟩ := Hex.decode_eq_ok_iff.mp read
  have same := congrArg List.length written
  rw [Hex.length_encodeChars, List.length_map, String.length_toList] at same
  exact same.symm

theorem encode_of_decode {text : String} {octets : Octets} (read : Hex.decode text = .ok octets) :
    Hex.encode octets = text.toLower := by
  rw [Hex.encode, (Hex.decode_eq_ok_iff.mp read).2]
  exact String.ext_iff.mpr (by rw [String.toList_ofList, String.toLower, String.toList_map])

/-- Only the empty text spells no octets. -/
theorem decode_eq_nil_iff {text : String} : Hex.decode text = .ok [] ↔ text = "" := by
  constructor
  · intro read
    exact String.length_eq_zero_iff.mp (length_of_decode read)
  · rintro rfl
    rfl

/-- A digit is no blank. -/
theorem isBlank_of_isDigit {c : Char} (digit : Hex.isDigit c = true) : Text.isBlank c = false :=
  Utf8.forall_ascii (P := fun c => Hex.isDigit c = true → Text.isBlank c = false)
    (by decide +kernel) (Hex.toNat_lt_of_isDigit digit) digit

/-- What a dataset is shown as has no blanks around it. -/
theorem trim_toHex (dataset : Dataset) : trim dataset.toHex = dataset.toHex :=
  Text.trim_eq_self fun c member =>
    isBlank_of_isDigit ((Hex.hexadecimal_encode dataset.octets).2 c member)

/-! ## The grammar -/

/-- What comes of a text that is entered as a dataset. -/
structure Import (text : String) : Prop where
  /-- Only what is between the blanks at both ends matters. -/
  trimmed : Text.Trimmed text (trim text)
  /-- Accepted are the hexadecimal texts of at least one octet that fit in one record. -/
  accepted : (∃ dataset, ofHex text = .ok dataset) ↔
    Hex.Hexadecimal (trim text) ∧ trim text ≠ "" ∧ (trim text).length ≤ 131070
  /-- The dataset is shown as the text in lower case. -/
  shown : ∀ dataset, ofHex text = .ok dataset → dataset.toHex = (trim text).toLower
  /-- A text of an odd number of octets is not hexadecimal, nor one with an octet that is no
  digit. -/
  invalid : (∃ flaw, ofHex text = .error (.invalidHex flaw)) ↔
    (Octets.ofText (trim text)).length % 2 = 1 ∨
      ∃ octet ∈ Octets.ofText (trim text), Hex.isDigit (Utf8.ascii octet) = false
  /-- The number is told first, and then the first such octet with its position. -/
  flawed : ∀ flaw, ofHex text = .error (.invalidHex flaw) →
    Hex.Flawed (Octets.ofText (trim text)) flaw
  /-- There is nothing in a text of blanks. -/
  empty : ofHex text = .error .empty ↔ trim text = ""
  /-- A hexadecimal text of too many octets is refused with their exact number. -/
  tooLarge : ∀ size limit, ofHex text = .error (.tooLarge size limit) ↔
    Hex.Hexadecimal (trim text) ∧ (trim text).length = 2 * size ∧ 65535 < size ∧ limit = 65535

/-- The hexadecimal texts that are accepted are neither empty nor too long. -/
theorem exists_ofHex_iff {text : String} :
    (∃ dataset, ofHex text = .ok dataset) ↔
      Hex.Hexadecimal (trim text) ∧ trim text ≠ "" ∧ (trim text).length ≤ 131070 := by
  simp only [ofHex_eq_ok_iff]
  constructor
  · rintro ⟨dataset, read⟩
    have fits := dataset.fits
    have long := length_of_decode read
    unfold maxValueLength at fits
    refine ⟨(Hex.decode_eq_ok_iff.mp read).1, fun nothing => dataset.nonempty ?_, by omega⟩
    exact Except.ok.inj (read.symm.trans (decode_eq_nil_iff.mpr nothing))
  · rintro ⟨hexadecimal, something, short⟩
    obtain ⟨octets, read, -⟩ := Hex.exists_decode hexadecimal
    have long := length_of_decode read
    have fits : octets.length ≤ maxValueLength := by
      unfold maxValueLength
      omega
    have nonempty : octets ≠ [] := by
      rintro rfl
      exact something (decode_eq_nil_iff.mp read)
    exact ⟨⟨octets, nonempty, fits⟩, read⟩

theorem tooLarge_iff {text : String} {size limit : Nat} :
    ofHex text = .error (.tooLarge size limit) ↔
      Hex.Hexadecimal (trim text) ∧ (trim text).length = 2 * size ∧ 65535 < size ∧
        limit = 65535 := by
  rw [ofHex_eq_tooLarge_iff]
  constructor
  · rintro ⟨octets, read, rfl, large, rfl⟩
    exact ⟨(Hex.decode_eq_ok_iff.mp read).1, length_of_decode read, large, rfl⟩
  · rintro ⟨hexadecimal, long, large, rfl⟩
    obtain ⟨octets, read, -⟩ := Hex.exists_decode hexadecimal
    have same := length_of_decode read
    exact ⟨octets, read, by omega, large, rfl⟩

/-- What comes of every text that is entered. -/
theorem import_ofHex (text : String) : Import text where
  trimmed := Text.trimmed_trim text
  accepted := exists_ofHex_iff
  shown _ made := encode_of_decode (ofHex_eq_ok_iff.mp made)
  invalid := by
    simp only [ofHex_eq_invalidHex_iff, Hex.decode_eq_error_iff]
    exact Hex.exists_flawed_iff
  flawed _ refused := Hex.decode_eq_error_iff.mp (ofHex_eq_invalidHex_iff.mp refused)
  empty := ofHex_eq_empty_iff.trans decode_eq_nil_iff
  tooLarge _ _ := tooLarge_iff

/-- What a dataset is shown as is that dataset. -/
theorem ofHex_eq_of_toHex (dataset : Dataset) : ofHex dataset.toHex = .ok dataset := by
  rw [ofHex_eq_ok_iff, trim_toHex]
  exact Hex.decode_encode dataset.octets

/-- Every dataset is written as the value of one record. -/
theorem exists_writeTo (dataset : Dataset) (tag : UInt8) (buffer : Octets) :
    ∃ wire, Tlv.writeTo buffer ⟨tag, dataset.octets⟩ = (.ok (), buffer ++ wire) ∧
      Tlv.ofOctets wire = .ok ⟨tag, dataset.octets⟩ := by
  have written : Tlv.encode ⟨tag, dataset.octets⟩ =
      .ok (Tlv.header ⟨tag, dataset.octets⟩ ++ dataset.octets) := if_pos dataset.fits
  exact ⟨_, by rw [Tlv.writeTo, written], Tlv.ofOctets_encode written⟩

/-- **Importing a dataset accepts exactly its grammar, and undoes showing it.** Every dataset
fits in one record. -/
theorem ofHex_grammar :
    (∀ text, Import text) ∧ (∀ dataset : Dataset, ofHex dataset.toHex = .ok dataset) ∧
      ∀ (dataset : Dataset) (tag : UInt8) (buffer : Octets),
        ∃ wire, Tlv.writeTo buffer ⟨tag, dataset.octets⟩ = (.ok (), buffer ++ wire) ∧
          Tlv.ofOctets wire = .ok ⟨tag, dataset.octets⟩ :=
  ⟨import_ofHex, ofHex_eq_of_toHex, exists_writeTo⟩

/-- Digits in either case between blanks, and a character that is spelled by two octets: the
first of these is told. -/
example :
    (ofHex "\u3000 0eFF\t").map toHex = .ok "0eff" ∧
      ofHex "0eé" = .error (.invalidHex (.invalid 0xC3 2)) := by
  decide +kernel

end Commissioner.Dataset
