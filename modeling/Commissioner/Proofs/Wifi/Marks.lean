import Commissioner.Proofs.Text.Utf8
import Commissioner.Proofs.Wifi.Ambiguity

/-!
# Marks and bars in answers that are not UTF-8

What an answer says is decided on its text, which shows U+FFFD where the octets of the answer are
not UTF-8. The marks and the bars are ASCII. So reading the text neither makes up a mark or a bar
nor hides one: the answer is classified as its octets are, and it tells a network just when there
are five bars among its octets, with the parts of the octets between the bars as its fields, each
read on its own (`Reply.ofRecord_and_read_eq`).
-/

set_option autoImplicit false

namespace Commissioner

/-! ## Marks -/

namespace Reply

theorem occurs_iff {α : Type} [BEq α] [LawfulBEq α] (part whole : List α) :
    occurs part whole = true ↔ part <:+: whole := by
  induction whole with
  | nil => rw [occurs, List.isEmpty_iff, List.infix_nil]
  | cons x rest ih =>
      rw [occurs, Bool.or_eq_true, List.isPrefixOf_iff_prefix, ih, List.infix_cons_iff]

/-- Classifies octets by the marks that occur in them. -/
def ofOctets (octets : Octets) : Reply :=
  if Octets.ofText "RESP_NOT_SUPP" <:+: octets then .notSupported
  else if Octets.ofText "RESP_FAIL" <:+: octets then .failed
  else if Octets.ofText "RESP_OK" <:+: octets then .ok
  else .data

/-- A mark that is ASCII occurs in the text of octets just when it occurs in the octets. -/
theorem occurs_lossy_iff (mark : String) (low : Utf8.Low (Octets.ofText mark))
    (spelled : (Octets.ofText mark).map Utf8.ascii = mark.toList) (octets : Octets) :
    occurs mark.toList (Utf8.lossy octets) = true ↔ Octets.ofText mark <:+: octets := by
  rw [occurs_iff, ← spelled, ← Utf8.lossy_of_low low, Utf8.lossy_infix_lossy_iff low]

/-- **A record is classified as its octets are.** -/
theorem ofRecord_eq (record : Tlv) : ofRecord record = ofOctets record.value := by
  have text : record.text.toList = Utf8.lossy record.value := String.toList_ofList
  have notSupported :=
    occurs_lossy_iff "RESP_NOT_SUPP" (by decide +kernel) (by decide +kernel) record.value
  have failed := occurs_lossy_iff "RESP_FAIL" (by decide +kernel) (by decide +kernel) record.value
  have ok := occurs_lossy_iff "RESP_OK" (by decide +kernel) (by decide +kernel) record.value
  simp only [ofRecord, ofText, ofChars, notSupportedMark, failedMark, okMark, text, notSupported,
    failed, ok, ofOctets]

end Reply

/-! ## Bars -/

/-- The octet of the bar. -/
def bar : UInt8 := 0x7C

/-- The fields of a record are the parts of its octets between the bars. -/
theorem barFields_text (record : Tlv) :
    barFields record.text = (record.value.splitOn bar).map Utf8.lossyText := by
  have text : record.text.toList = Utf8.lossy record.value := String.toList_ofList
  have fields := Utf8.split_lossy (show bar < 0x80 by decide) record.value
  rw [Fields.split_eq_splitOn bar] at fields
  rw [barFields, Fields.ofText, text]
  rw [show '|' = Utf8.ascii bar from rfl, fields, List.map_map]
  rfl

/-- A text tells a network just when it has six fields or more, and the first six are its
fields. -/
theorem Network.map_fields_read (text : String) :
    (Network.read text).map Network.fields =
      if 6 ≤ (barFields text).length then .ok ((barFields text).take 6)
      else .error ⟨6, (barFields text).length⟩ := by
  unfold Network.read
  generalize barFields text = fields
  match fields with
  | [] | [_] | [_, _] | [_, _, _] | [_, _, _, _] | [_, _, _, _, _] => rfl
  | _ :: _ :: _ :: _ :: _ :: _ :: more =>
      rw [if_pos (by simp)]
      rfl

/-- **Reading the text of an answer neither makes up a mark or a bar nor hides one.** -/
theorem Reply.ofRecord_and_read_eq (record : Tlv) :
    ofRecord record = ofOctets record.value ∧
      (Network.read record.text).map Network.fields =
        if 5 ≤ record.value.count bar then
          .ok (((record.value.splitOn bar).take 6).map Utf8.lossyText)
        else .error ⟨6, record.value.count bar + 1⟩ := by
  have count : (record.value.splitOn bar).length = record.value.count bar + 1 := by
    rw [← Fields.split_eq_splitOn, Fields.length_split]
  refine ⟨ofRecord_eq record, ?_⟩
  rw [Network.map_fields_read, barFields_text, List.length_map, count, List.map_take]
  simp only [Nat.reduceLeDiff]

end Commissioner
