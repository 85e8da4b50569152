import Commissioner.Proofs.Tlv.Stream

/-!
# The written form of a record

Every record that fits has one written form, and reading it gives the record back,
strictly (`Tlv.ofOctets_encode`) as well as from the front of a stream
(`Tlv.split?_encode`). Reading accepts more than that: a length below 255 may also stand
in the long form. The octets that are written are exactly those that are read and have
the header of a written form (`Canonical`).
-/

set_option autoImplicit false

namespace Commissioner

/-- Octets begin with a header as it is written: in the short form, or in the long form
with a length that the short form cannot tell. -/
inductive Canonical : Octets → Prop where
  | short {tag length : UInt8} {body : Octets} (plain : length ≠ longMark) :
      Canonical (tag :: length :: body)
  | long {tag high low : UInt8} {body : Octets} (needed : 255 ≤ Octets.word high low) :
      Canonical (tag :: longMark :: high :: low :: body)

/-- The length octet of a short header tells a length below 255. -/
theorem toNat_lt_of_ne_longMark {length : UInt8} (plain : length ≠ longMark) :
    length.toNat < 255 := by
  have bound := length.toNat_lt
  have other : length.toNat ≠ 255 := fun same => plain (UInt8.toNat_inj.mp same)
  omega

namespace Tlv

/-! ## Headers -/

/-- A header that is written has a written form. -/
theorem canonical_header {record : Tlv} (fits : record.value.length ≤ maxValueLength)
    (body : Octets) : Canonical (record.header ++ body) := by
  unfold maxValueLength at fits
  unfold header
  split
  next below =>
    refine .short fun same => ?_
    have spelled := congrArg UInt8.toNat same
    rw [UInt8.toNat_ofNat', Nat.mod_eq_of_lt (by omega)] at spelled
    have mark : longMark.toNat = 255 := rfl
    omega
  next above =>
    refine .long ?_
    rw [Octets.word_ofWord (by omega)]
    omega

/-- A header of a written form is the one that is written for what it tells. -/
theorem header_of_canonical {octets body : Octets} {record : Tlv} (canonical : Canonical octets)
    (complete : Header.read octets = .complete record.tag record.value.length body) :
    record.header ++ body = octets := by
  cases canonical with
  | @short tag length body plain =>
      simp only [Header.read, if_neg plain, Header.complete.injEq] at complete
      obtain ⟨rfl, told, rfl⟩ := complete
      rw [header, ← told, if_pos (toNat_lt_of_ne_longMark plain), UInt8.ofNat_toNat]
      rfl
  | @long tag high low body needed =>
      simp only [Header.read, if_true, Header.complete.injEq] at complete
      obtain ⟨rfl, told, rfl⟩ := complete
      rw [header, ← told, if_neg (Nat.not_lt_of_ge needed), Octets.ofWord_word]
      rfl

/-! ## Strict reading -/

/-- Octets are exactly one record when the value that their header tells is all that
stands behind it. -/
theorem ofOctets_eq_ok {octets : Octets} {record : Tlv} :
    ofOctets octets = .ok record ↔
      Header.read octets = .complete record.tag record.value.length record.value := by
  unfold ofOctets
  constructor
  · intro read
    split at read
    next => cases read
    next tag declared body complete =>
      split at read
      · cases read
      · split at read
        · cases read
        · cases read
          have exact : declared = body.length := by omega
          rw [complete, exact]
  · intro complete
    simp only [complete, Nat.lt_irrefl, if_false]

/-- A record that was written is read back strictly. -/
theorem ofOctets_encode {record : Tlv} {wire : Octets} (written : record.encode = .ok wire) :
    ofOctets wire = .ok record := by
  unfold encode at written
  split at written
  next fits =>
    cases written
    exact ofOctets_eq_ok.mpr (read_header fits record.value)
  next => cases written

/-- A written record takes the octets of its header and those of its value. -/
theorem length_encode {record : Tlv} {wire : Octets} (written : record.encode = .ok wire) :
    wire.length = record.wireSize := by
  unfold encode at written
  split at written
  next =>
    cases written
    rw [List.length_append, wireSize, header, headerSize]
    split <;> rfl
  next => cases written

/-- Writing again what was read strictly gives the same octets exactly when they had a
written form. -/
theorem encode_eq_iff_canonical {octets wire : Octets} {record : Tlv}
    (accepted : ofOctets octets = .ok record) (written : record.encode = .ok wire) :
    wire = octets ↔ Canonical octets := by
  have complete := ofOctets_eq_ok.mp accepted
  have fits := Header.declared_le complete
  rw [encode, if_pos fits] at written
  cases written
  constructor
  · intro same
    rw [← same]
    exact canonical_header fits record.value
  · intro canonical
    exact header_of_canonical canonical complete

/-! ## There and back -/

/-- **Writing and reading are inverse to each other** over the whole format. A record
that fits is written behind what a buffer holds, in as many octets as its size tells;
both ways of reading give it back, and taking it off a stream leaves what stands behind
it. A record that does not fit is refused, and the buffer is left alone. Conversely,
whatever strict reading accepts can be written again, and gives the same octets exactly
when they had a written form. -/
theorem writeTo_roundTrip (record : Tlv) (buffer : Octets) :
    (record.value.length ≤ maxValueLength →
      ∃ wire, writeTo buffer record = (.ok (), buffer ++ wire) ∧
        wire.length = record.wireSize ∧
        ofOctets wire = .ok record ∧
        ∀ rest, split? (wire ++ rest) = some (record, rest)) ∧
    (maxValueLength < record.value.length →
      writeTo buffer record =
        (.error (.valueTooLarge record.value.length maxValueLength), buffer)) ∧
    ∀ octets found, ofOctets octets = .ok found →
      ∃ wire, found.encode = .ok wire ∧ (wire = octets ↔ Canonical octets) := by
  refine ⟨fun fits => ?_, fun tooLong => ?_, fun octets found accepted => ?_⟩
  · have written : record.encode = .ok (record.header ++ record.value) := if_pos fits
    refine ⟨record.header ++ record.value, ?_, length_encode written, ofOctets_encode written,
      split?_encode written⟩
    rw [writeTo, written]
  · have refused : record.encode =
        .error (.valueTooLarge record.value.length maxValueLength) :=
      if_neg (Nat.not_le_of_lt tooLong)
    rw [writeTo, refused]
  · have fits := Header.declared_le (ofOctets_eq_ok.mp accepted)
    have written : found.encode = .ok (found.header ++ found.value) := if_pos fits
    exact ⟨_, written, encode_eq_iff_canonical accepted written⟩

set_option maxRecDepth 8000 in
/-- A value of 255 octets is written in the long form and read back; a value of one octet
is read in the long form too, but written in the short one. -/
theorem writeTo_roundTrip_long :
    (∃ wire, writeTo [1, 2] ⟨0x20, List.replicate 255 7⟩ = (.ok (), [1, 2] ++ wire) ∧
      wire.length = 259 ∧ split? (wire ++ [0x82]) = some (⟨0x20, List.replicate 255 7⟩, [0x82])) ∧
    ∃ wire, encode ⟨0x82, [65]⟩ = .ok wire ∧ wire ≠ [0x82, 0xFF, 0, 1, 65] := by
  obtain ⟨written, -, -⟩ := writeTo_roundTrip ⟨0x20, List.replicate 255 7⟩ [1, 2]
  obtain ⟨-, -, again⟩ := writeTo_roundTrip default []
  constructor
  · obtain ⟨wire, put, size, -, back⟩ := written (by simp [maxValueLength])
    exact ⟨wire, put, size.trans (by simp [wireSize, headerSize]), back [0x82]⟩
  · obtain ⟨wire, short, same⟩ := again [0x82, 0xFF, 0, 1, 65] ⟨0x82, [65]⟩ rfl
    refine ⟨wire, short, fun equal => ?_⟩
    cases same.mp equal with
    | short plain => exact plain rfl
    | long needed => exact absurd needed (by decide)

end Tlv

end Commissioner
