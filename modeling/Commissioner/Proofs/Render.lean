import Commissioner.Proofs.Text.Hex
import Commissioner.Proofs.Text.Json
import Commissioner.Proofs.Tlv.Canonical
import Commissioner.Render

/-!
# What showing a record tells

A record that is shown on one line, or in JSON, can be told from what is shown. The tag stands
there as a number. The value stands in one of three ways, as the name of a status, between quotes
or in hexadecimal, and the first character tells which (`Render.Shown.unique`): the names of
statuses are in upper case, and the digits of hexadecimal in lower case. A value between quotes
may hold quotes itself, but ends where the line ends. The hexadecimal of a record is the record as
it is sent, whenever it can be sent.

None of these formats shows a control character, whatever octets a device sends: a value with such
characters is shown in hexadecimal (`Render.record_lossless`).
-/

set_option autoImplicit false

namespace Commissioner.Render

/-! ## The three ways to show a value -/

/-- The ways in which a value is shown to people. -/
inductive Shown (value : Octets) : List Char → Prop where
  /-- By the name of the status that it stands for. -/
  | status {octet : UInt8} {status : Status} (one : value = [octet])
      (known : Status.ofOctet? octet = some status) : Shown value status.label.toList
  /-- Between quotes, as the text that it spells. -/
  | text {text : String} (spelled : Octets.ofText text = value) :
      Shown value ('"' :: text.toList ++ ['"'])
  /-- In hexadecimal. -/
  | digits : Shown value (Hex.encodeChars value)

theorem ofText_of_printableText? {value : Octets} {text : String}
    (printable : printableText? value = some text) : Octets.ofText text = value := by
  unfold printableText? at printable
  split at printable
  next chars read =>
    split at printable
    · cases printable
      exact Utf8.ofText_of_read read
    · cases printable
  next => cases printable

theorem shown_valueText (record : Tlv) : Shown record.value (valueText record).toList := by
  unfold valueText
  split
  next status known =>
    unfold Tlv.status at known
    split at known
    · split at known
      next octet one => exact .status one known
      next => cases known
    · cases known
  next =>
    split
    next text printable =>
      rw [String.toList_append, String.toList_append]
      exact .text (ofText_of_printableText? printable)
    next =>
      rw [Hex.encode, String.toList_ofList]
      exact .digits

/-- The name of a status starts with a letter in upper case. -/
theorem exists_upper_label (status : Status) :
    ∃ letter rest, status.label.toList = letter :: rest ∧ letter.isUpper = true := by
  cases status <;> exact ⟨_, _, rfl, rfl⟩

theorem label_ne_text (status : Status) (rest : List Char) : status.label.toList ≠ '"' :: rest := by
  obtain ⟨letter, behind, starts, upper⟩ := exists_upper_label status
  rw [starts]
  rintro ⟨⟩
  cases upper

theorem label_ne_digits (status : Status) (value : Octets) :
    status.label.toList ≠ Hex.encodeChars value := by
  intro same
  obtain ⟨letter, behind, starts, upper⟩ := exists_upper_label status
  have member : letter ∈ Hex.encodeChars value := by
    rw [← same, starts]
    exact List.mem_cons_self
  obtain ⟨digit, lower⟩ := Hex.isDigit_of_mem_encodeChars member
  have apart := Utf8.forall_ascii (P := fun c => c.isUpper = true → c.toLower ≠ c)
    (by decide +kernel) (Hex.toNat_lt_of_isDigit digit)
  exact apart upper lower

theorem text_ne_digits (rest : List Char) (value : Octets) :
    '"' :: rest ≠ Hex.encodeChars value := by
  intro same
  have member : '"' ∈ Hex.encodeChars value := by
    rw [← same]
    exact List.mem_cons_self
  cases (Hex.isDigit_of_mem_encodeChars member).1

/-- The octet that stands for a status. -/
def octetOf : Status → UInt8
  | .success => 0
  | .unsupported => 1
  | .parseError => 2
  | .valueError => 3
  | .generalError => 4
  | .busy => 5
  | .undefined => 6
  | .hashError => 7
  | .unauthorized => 16

theorem eq_octetOf {octet : UInt8} {status : Status} (known : Status.ofOctet? octet = some status) :
    octet = octetOf status := by
  have every : ∀ octet : UInt8, ∀ status ∈ Status.ofOctet? octet, octet = octetOf status := by
    decide +kernel
  exact every octet status known

theorem label_inj {first second : Status} (same : first.label = second.label) : first = second := by
  cases first <;> cases second <;> first | rfl | exact absurd same (by decide)

/-- **What is shown of a value determines it**, whichever way it is shown. -/
theorem Shown.unique {value other : Octets} {chars spelled : List Char} (shown : Shown value chars)
    (shownToo : Shown other spelled) (same : chars = spelled) : value = other := by
  cases shown with
  | status one known =>
      cases shownToo with
      | status oneToo knownToo =>
          have status := label_inj (String.toList_inj.mp same)
          rw [one, oneToo, eq_octetOf known, eq_octetOf knownToo, status]
      | text => exact absurd same (label_ne_text _ _)
      | digits => exact absurd same (label_ne_digits _ _)
  | text spelled =>
      cases shownToo with
      | status => exact absurd same.symm (label_ne_text _ _)
      | text spelledToo =>
          have text := List.append_cancel_right (List.cons.inj same).2
          rw [← spelled, ← spelledToo, String.toList_inj.mp text]
      | digits => exact absurd same (text_ne_digits _ _)
  | digits =>
      cases shownToo with
      | status => exact absurd same.symm (label_ne_digits _ _)
      | text => exact absurd same.symm (text_ne_digits _ _)
      | digits => exact Hex.encodeChars_inj same

/-! ## One line -/

theorem space_not_mem_tagLabel (tag : UInt8) : ' ' ∉ (tagLabel tag).toList := by
  unfold tagLabel
  split
  next name _ => cases name <;> decide +kernel
  next => decide +kernel

theorem toList_pretty (record : Tlv) :
    (pretty record).toList =
      (tagLabel record.tag).toList ++ ' ' :: ("(0x".toList ++ (Hex.encodeChars [record.tag] ++
        (") len=".toList ++ (record.value.length.repr.toList ++ ' ' :: ("value=".toList ++
          (valueText record).toList))))) := by
  have mark : " (0x".toList = ' ' :: "(0x".toList := rfl
  have length : ") len=".toList = ')' :: " len=".toList := rfl
  have value : " value=".toList = ' ' :: "value=".toList := rfl
  simp only [pretty, tagText, String.toList_append, Hex.encode, String.toList_ofList, mark, length,
    value, List.append_assoc, List.cons_append]
  rfl

/-- **A record can be told from the line that shows it.** -/
theorem pretty_inj {first second : Tlv} (same : pretty first = pretty second) : first = second := by
  have line := congrArg String.toList same
  rw [toList_pretty, toList_pretty] at line
  have names : ∀ tag : UInt8, (tagLabel tag).toList.count ' ' = 0 := fun tag =>
    List.count_eq_zero.mpr (space_not_mem_tagLabel tag)
  have numbers : ∀ n : Nat, n.repr.toList.count ' ' = 0 := fun n =>
    List.count_eq_zero.mpr (Json.not_mem_repr (by decide) n)
  obtain ⟨-, line⟩ := Fields.cut_unique line ((names _).trans (names _).symm)
  obtain ⟨tags, line⟩ := List.append_inj (List.append_cancel_left line)
    (by rw [Hex.length_encodeChars, Hex.length_encodeChars]; rfl)
  obtain ⟨-, line⟩ := Fields.cut_unique (List.append_cancel_left line)
    ((numbers _).trans (numbers _).symm)
  have values := Shown.unique (shown_valueText first) (shown_valueText second)
    (List.append_cancel_left line)
  cases first
  cases second
  cases Hex.encodeChars_inj tags
  cases values
  rfl

/-! ## JSON -/

theorem escape_of_isDigit {c : Char} (digit : Hex.isDigit c = true) : Json.escape c = [c] :=
  Utf8.forall_ascii (P := fun c => Hex.isDigit c = true → Json.escape c = [c]) (by decide +kernel)
    (Hex.toNat_lt_of_isDigit digit) digit

/-- **A record can be told from the JSON that shows it.** -/
theorem json_inj {first second : Tlv} (same : json first = json second) : first = second := by
  have plain : ∀ value : Octets, ∀ c ∈ (Hex.encode value).toList, Json.escape c = [c] :=
    fun value c member => escape_of_isDigit ((Hex.hexadecimal_encode value).2 c member)
  have tags : first.tag.toNat = second.tag.toNat := by
    refine Json.number_of_object ?_ ?_ same
    all_goals exact List.cons_ne_nil _ _
  have values : Hex.encode first.value = Hex.encode second.value := by
    refine Json.content_of_object ?_ ?_ (plain _) (plain _) same
    all_goals exact List.cons_ne_nil _ _
  have read := congrArg Hex.decode values
  rw [Hex.decode_encode, Hex.decode_encode] at read
  cases first
  cases second
  cases UInt8.toNat_inj.mp tags
  cases read
  rfl

/-! ## Hexadecimal -/

/-- **The hexadecimal of a record is the record as it is sent**, when it can be sent. -/
theorem exists_decode_raw {shown : Tlv} (fits : shown.value.length ≤ maxValueLength) :
    ∃ wire, Hex.decode (raw shown) = .ok wire ∧ Tlv.ofOctets wire = .ok shown := by
  have written : shown.encode = .ok (shown.header ++ shown.value) := if_pos fits
  refine ⟨_, ?_, Tlv.ofOctets_encode written⟩
  rw [raw, written]
  exact Hex.decode_encode _

/-! ## Control characters -/

/-- A text without control characters. -/
def Clean (text : String) : Prop :=
  ∀ c ∈ text.toList, isControl c = false

theorem forall_mem_of_all {chars : List Char} (all : chars.all (fun c => !isControl c) = true) :
    ∀ c ∈ chars, isControl c = false :=
  fun c member => by simpa using List.all_eq_true.mp all c member

theorem clean_of_all {text : String} (all : text.toList.all (fun c => !isControl c) = true) :
    Clean text :=
  forall_mem_of_all all

theorem Clean.append {first second : String} (clean : Clean first) (cleanToo : Clean second) :
    Clean (first ++ second) := by
  rw [Clean, String.toList_append]
  exact List.forall_mem_append.mpr ⟨clean, cleanToo⟩

theorem clean_encode (octets : Octets) : Clean (Hex.encode octets) := by
  intro c member
  have digit := (Hex.hexadecimal_encode octets).2 c member
  exact Utf8.forall_ascii (P := fun c => Hex.isDigit c = true → isControl c = false)
    (by decide +kernel) (Hex.toNat_lt_of_isDigit digit) digit

theorem clean_repr (n : Nat) : Clean n.repr := by
  intro c member
  rw [Nat.toList_repr] at member
  have digit := Nat.isDigit_of_mem_toDigits (by decide) (by decide) member
  simp only [Char.isDigit, Bool.and_eq_true, decide_eq_true_eq, ge_iff_le] at digit
  have low : 48 ≤ c.toNat := digit.1
  have high : c.toNat ≤ 57 := digit.2
  simp only [isControl, Bool.or_eq_false_iff, Bool.and_eq_false_iff, decide_eq_false_iff_not]
  omega

theorem clean_tagLabel (tag : UInt8) : Clean (tagLabel tag) := by
  unfold tagLabel
  split
  next name _ => cases name <;> exact clean_of_all rfl
  next => exact clean_of_all rfl

theorem clean_label (status : Status) : Clean status.label := by
  cases status <;> exact clean_of_all rfl

theorem clean_of_printableText? {value : Octets} {text : String}
    (printable : printableText? value = some text) : Clean text := by
  unfold printableText? at printable
  split at printable
  next chars _ =>
    split at printable
    next all =>
      cases printable
      rw [Bool.and_eq_true] at all
      exact clean_of_all (by rw [String.toList_ofList]; exact all.2)
    next => cases printable
  next => cases printable

theorem clean_valueText (record : Tlv) : Clean (valueText record) := by
  unfold valueText
  split
  next status _ => exact clean_label status
  next =>
    split
    next text printable =>
      have quote : Clean "\"" := clean_of_all rfl
      exact (quote.append (clean_of_printableText? printable)).append quote
    next => exact clean_encode _

theorem clean_pretty (record : Tlv) : Clean (pretty record) := by
  have tag : Clean (tagText record.tag) :=
    (((clean_tagLabel _).append (clean_of_all rfl)).append (clean_encode _)).append
      (clean_of_all rfl)
  exact (((tag.append (clean_of_all rfl)).append (clean_repr _)).append (clean_of_all rfl)).append
    (clean_valueText record)

/-- Escaping brings in no control character. -/
theorem clean_escape {c : Char} (fine : isControl c = false) :
    ∀ shown ∈ Json.escape c, isControl shown = false := by
  unfold Json.escape
  iterate 7
    split
    · exact forall_mem_of_all rfl
  split
  next low =>
    simp only [isControl, Bool.or_eq_false_iff, decide_eq_false_iff_not] at fine
    exact absurd low fine.1
  next => exact List.forall_mem_singleton.mpr fine

theorem clean_string {content : String} (clean : Clean content) : Clean (Json.string content) := by
  rw [Clean, Json.string, String.toList_ofList]
  refine List.forall_mem_append.mpr ⟨List.forall_mem_cons.mpr ⟨rfl, fun shown member => ?_⟩,
    List.forall_mem_singleton.mpr rfl⟩
  obtain ⟨c, inside, escaped⟩ := List.mem_flatMap.mp member
  exact clean_escape (clean c inside) shown escaped

theorem clean_intercalate {texts : List String} (clean : ∀ text ∈ texts, Clean text) :
    Clean (",".intercalate texts) := by
  rw [Clean, String.toList_intercalate]
  induction texts with
  | nil => exact List.forall_mem_nil _
  | cons text texts ih =>
      obtain ⟨first, others⟩ := List.forall_mem_cons.mp clean
      cases texts with
      | nil =>
          rw [List.map_singleton, List.intercalate_singleton]
          exact first
      | cons next texts =>
          rw [List.map_cons, List.map_cons, List.intercalate_cons_cons]
          have comma : Clean "," := clean_of_all rfl
          exact List.forall_mem_append.mpr ⟨List.forall_mem_append.mpr ⟨first, comma⟩, ih others⟩

/-- A field whose name and content hold no control characters. -/
structure CleanField (field : String × Json.Value) : Prop where
  name : Clean field.1
  content : Clean field.2.written

theorem CleanField.number {name : String} (named : Clean name) (n : Nat) :
    CleanField (name, .number n) :=
  ⟨named, clean_repr n⟩

theorem CleanField.text {name content : String} (named : Clean name) (clean : Clean content) :
    CleanField (name, .text content) :=
  ⟨named, clean_string clean⟩

theorem cleanField_optional {name : String} {content : Option String} (named : Clean name)
    (clean : ∀ text ∈ content, Clean text) :
    ∀ field ∈ optionalField name content, CleanField field := by
  cases content with
  | none => exact List.forall_mem_nil _
  | some text => exact List.forall_mem_singleton.mpr (.text named (clean text rfl))

/-- An object shows no control character that its fields do not hold. -/
theorem clean_object {fields : List (String × Json.Value)}
    (clean : ∀ field ∈ fields, CleanField field) : Clean (Json.object fields) := by
  have each : ∀ text ∈ fields.map fun field => Json.string field.1 ++ ":" ++ field.2.written,
      Clean text := by
    refine List.forall_mem_map.mpr fun field member => ?_
    obtain ⟨name, content⟩ := clean field member
    exact ((clean_string name).append (clean_of_all rfl)).append content
  exact (Clean.append (clean_of_all rfl) (clean_intercalate each)).append (clean_of_all rfl)

theorem clean_json (record : Tlv) : Clean (json record) := by
  have front : ∀ field ∈ [("tlv_type", .number record.tag.toNat),
      ("type_name", .text (tagLabel record.tag)), ("length", .number record.value.length)],
      CleanField field :=
    List.forall_mem_cons.mpr ⟨.number (clean_of_all rfl) _, List.forall_mem_cons.mpr
      ⟨.text (clean_of_all rfl) (clean_tagLabel _), List.forall_mem_singleton.mpr
        (.number (clean_of_all rfl) _)⟩⟩
  have status : ∀ label ∈ record.status.map Status.label, Clean label := by
    rintro _ named
    obtain ⟨status, -, rfl⟩ := Option.mem_map.mp named
    exact clean_label status
  have printed : ∀ text ∈ printableText? record.value, Clean text :=
    fun text => clean_of_printableText?
  have value : ∀ field ∈ [("value", .text (Hex.encode record.value))], CleanField field :=
    List.forall_mem_singleton.mpr (.text (clean_of_all rfl) (clean_encode _))
  refine clean_object (List.forall_mem_append.mpr ⟨List.forall_mem_append.mpr
    ⟨List.forall_mem_append.mpr ⟨front, ?_⟩, ?_⟩, value⟩)
  · exact cleanField_optional (clean_of_all rfl) status
  · exact cleanField_optional (clean_of_all rfl) printed

theorem clean_raw (record : Tlv) : Clean (raw record) := by
  unfold raw
  split
  next => exact clean_encode _
  next => exact clean_encode _

/-! ## All three formats -/

/-- **Showing a record loses nothing and shows no control character.** Records that are shown
alike on one line, or in JSON, are the same; the hexadecimal of a record that can be sent is read
back as the record; and none of the three holds a control character. -/
theorem record_lossless :
    (∀ first second : Tlv, record .pretty first = record .pretty second ∨
      record .json first = record .json second → first = second) ∧
    (∀ shown : Tlv, shown.value.length ≤ maxValueLength →
      ∃ wire, Hex.decode (record .raw shown) = .ok wire ∧ Tlv.ofOctets wire = .ok shown) ∧
    ∀ shown : Tlv, ∀ format ∈ [Format.pretty, .json, .raw], Clean (record format shown) := by
  refine ⟨fun first second same => ?_, fun shown fits => exists_decode_raw fits,
    fun shown format member => ?_⟩
  · rcases same with line | object
    · exact pretty_inj line
    · exact json_inj object
  · cases format with
    | pretty => exact clean_pretty shown
    | json => exact clean_json shown
    | raw => exact clean_raw shown
    | table => exact absurd member (by decide)

/-- A text that holds quotes is read back, and the text `BUSY` is not shown as the status. -/
theorem record_lossless_quotes :
    (∃ wire, Hex.decode (record .raw ⟨0x82, Octets.ofText "say \"hi\""⟩) = .ok wire ∧
      Tlv.ofOctets wire = .ok ⟨0x82, Octets.ofText "say \"hi\""⟩) ∧
    Tlv.named .responseWithStatus [5] = ⟨1, [5]⟩ ∧
    record .pretty ⟨1, [5]⟩ ≠ record .pretty ⟨1, Octets.ofText "BUSY"⟩ := by
  obtain ⟨told, sent, -⟩ := record_lossless
  refine ⟨sent _ (by decide), told _ _ (.inl rfl), fun same => ?_⟩
  exact absurd (told _ _ (.inl same)) (by decide)

end Commissioner.Render
