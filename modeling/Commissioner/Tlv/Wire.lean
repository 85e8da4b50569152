import Commissioner.Tlv.Basic

/-!
# Records on the wire

A record is written as its tag, the length of its value and the value. A length
below 255 takes one octet; from 255 on it is written as the octet 255 followed
by two octets, high octet first, so that a value holds at most 65535 octets.

Reading comes in two forms over the same header. `Tlv.ofOctets` is strict: the
octets have to be exactly one record. `Tlv.split?` is incremental: it takes the
first record off a buffer and leaves the rest, or leaves the buffer alone when
no record is complete yet. A length below 255 in the long form is read as well,
though it is never written.
-/

set_option autoImplicit false

namespace Commissioner

/-! ## Headers -/

/-- The octet that announces a two-octet length. -/
def longMark : UInt8 := 0xFF

/-- The longest value that a record can hold. -/
def maxValueLength : Nat := 65535

/-- What the first octets of a buffer say about the record there. -/
inductive Header where
  /-- A whole header, with the octets behind it. -/
  | complete (tag : UInt8) (declared : Nat) (body : Octets)
  /-- A header that needs this many octets and has fewer. -/
  | incomplete (needed : Nat)
  deriving DecidableEq

namespace Header

/-- Reads the header at the front of a buffer. -/
def read : Octets → Header
  | tag :: length :: rest =>
      if length = longMark then
        match rest with
        | high :: low :: body => .complete tag (Octets.word high low) body
        | _ => .incomplete 4
      else .complete tag length.toNat rest
  | _ => .incomplete 2

/-- A header takes at least two octets off the buffer. -/
theorem length_body_of_read {octets body : Octets} {tag : UInt8} {declared : Nat}
    (complete : read octets = .complete tag declared body) :
    body.length + 2 ≤ octets.length := by
  unfold read at complete
  split at complete
  next first second rest =>
    split at complete
    · split at complete
      next high low tail =>
        simp only [Header.complete.injEq] at complete
        obtain ⟨-, -, rfl⟩ := complete
        simp only [List.length_cons]
        omega
      next => cases complete
    · simp only [Header.complete.injEq] at complete
      obtain ⟨-, -, rfl⟩ := complete
      simp only [List.length_cons]
      omega
  next => cases complete

end Header

/-! ## Why octets are not one record, or a value does not fit -/

/-- Why octets are not exactly one record. -/
inductive Malformed where
  /-- The header needs more octets than there are. -/
  | shortHeader (needed available : Nat)
  /-- The declared length runs past the end. -/
  | lengthOverrun (declared available : Nat)
  /-- Octets are left behind the record. -/
  | trailing (count : Nat)
  deriving DecidableEq

/-- Why a record cannot be written or read. -/
inductive TlvError where
  /-- The octets are not exactly one record. -/
  | malformed (reason : Malformed)
  /-- The value is longer than the limit. -/
  | valueTooLarge (size limit : Nat)
  deriving DecidableEq

namespace Malformed

/-- The reason in words. -/
def message : Malformed → String
  | shortHeader needed available =>
      "header needs " ++ toString needed ++ " bytes, buffer has " ++ toString available
  | lengthOverrun declared available =>
      "declared length " ++ toString declared ++ " exceeds remaining " ++ toString available
        ++ " bytes"
  | trailing count => toString count ++ " trailing bytes after record"

end Malformed

namespace TlvError

/-- The error in words. -/
def message : TlvError → String
  | malformed reason => "malformed TLV record: " ++ reason.message
  | valueTooLarge size limit =>
      "TLV value too large (" ++ toString size ++ " bytes, max " ++ toString limit ++ ")"

end TlvError

/-! ## Writing and reading -/

namespace Tlv

/-- The number of octets in front of the value. -/
def headerSize (record : Tlv) : Nat :=
  if record.value.length < 255 then 2 else 4

/-- The number of octets that the whole record takes. -/
def wireSize (record : Tlv) : Nat :=
  record.headerSize + record.value.length

/-- The octets in front of the value of a record that fits. -/
def header (record : Tlv) : Octets :=
  if record.value.length < 255 then [record.tag, UInt8.ofNat record.value.length]
  else record.tag :: longMark :: Octets.ofWord record.value.length

/-- Writes a record, unless its value is too long to be described. -/
def encode (record : Tlv) : Except TlvError Octets :=
  if record.value.length ≤ maxValueLength then .ok (record.header ++ record.value)
  else .error (.valueTooLarge record.value.length maxValueLength)

/-- Writes a record behind what a buffer holds. A record that cannot be written leaves
the buffer alone. -/
def writeTo (buffer : Octets) (record : Tlv) : Except TlvError Unit × Octets :=
  match record.encode with
  | .ok wire => (.ok (), buffer ++ wire)
  | .error error => (.error error, buffer)

/-- Reads octets that have to be exactly one record. -/
def ofOctets (octets : Octets) : Except TlvError Tlv :=
  match Header.read octets with
  | .incomplete needed => .error (.malformed (.shortHeader needed octets.length))
  | .complete tag declared body =>
      if body.length < declared then
        .error (.malformed (.lengthOverrun declared body.length))
      else if declared < body.length then
        .error (.malformed (.trailing (body.length - declared)))
      else .ok ⟨tag, body⟩

/-- Takes the first record off a buffer, if it is complete, and leaves the rest. -/
def split? (buffer : Octets) : Option (Tlv × Octets) :=
  match Header.read buffer with
  | .incomplete _ => none
  | .complete tag declared body =>
      if body.length < declared then none
      else some (⟨tag, body.take declared⟩, body.drop declared)

/-- What is left behind a record is shorter than the buffer by two octets or more. -/
theorem length_of_split? {buffer rest : Octets} {record : Tlv}
    (taken : split? buffer = some (record, rest)) : rest.length + 2 ≤ buffer.length := by
  unfold split? at taken
  split at taken
  next => cases taken
  next tag declared body complete =>
    split at taken
    next => cases taken
    next =>
      simp only [Option.some.injEq, Prod.mk.injEq] at taken
      obtain ⟨-, rfl⟩ := taken
      have shorter := Header.length_body_of_read complete
      simp only [List.length_drop]
      omega

end Tlv

end Commissioner
