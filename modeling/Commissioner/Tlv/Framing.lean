import Commissioner.Fault
import Commissioner.Tlv.Wire

/-!
# Framing under a limit

A framing cuts a stream of octets into records and refuses values longer than
its limit, both ways. A record that is too long is taken off the buffer before
it is refused, so that the next call goes on behind it.
-/

set_option autoImplicit false

namespace Commissioner

/-- A framing of records, known by the longest value that it lets through. -/
structure Framing where
  /-- The longest value let through. -/
  limit : Nat
  deriving DecidableEq

/-- What the front of a buffer holds under a limit. -/
inductive Framed where
  /-- A record, with what is left behind it. -/
  | record (record : Tlv) (rest : Octets)
  /-- No complete record yet. -/
  | incomplete
  /-- A record that is too long, with what is left behind it. -/
  | tooLarge (size : Nat) (rest : Octets)
  deriving DecidableEq

namespace Framing

/-- A framing that lets through what a record can hold, and no more than asked for. -/
def ofLimit (limit : Nat) : Framing :=
  ⟨min limit maxValueLength⟩

/-- Reads the front of a buffer. -/
def next (framing : Framing) (buffer : Octets) : Framed :=
  match Tlv.split? buffer with
  | none => .incomplete
  | some (record, rest) =>
      if record.value.length ≤ framing.limit then .record record rest
      else .tooLarge record.value.length rest

/-- The error for a value of this size. -/
def refusal (framing : Framing) (size : Nat) : TlvError :=
  .valueTooLarge size framing.limit

/-- Writes a record whose value the limit lets through. -/
def encode (framing : Framing) (record : Tlv) : Except TlvError Octets :=
  if record.value.length ≤ framing.limit then record.encode
  else .error (framing.refusal record.value.length)

/-- A record that is let through leaves a shorter buffer. -/
theorem length_of_next_record {framing : Framing} {buffer rest : Octets} {record : Tlv}
    (found : framing.next buffer = .record record rest) : rest.length + 2 ≤ buffer.length := by
  unfold next at found
  split at found
  next => cases found
  next taken split =>
    split at found
    next =>
      simp only [Framed.record.injEq] at found
      obtain ⟨-, rfl⟩ := found
      exact Tlv.length_of_split? split
    next => cases found

/-- All complete records of a buffer, with what is left, up to the first that is too long. -/
structure Drained where
  /-- The records, in order. -/
  records : List Tlv
  /-- The size of the value that was refused, if one was. -/
  refused : Option Nat
  /-- What is left of the buffer. -/
  rest : Octets
  deriving DecidableEq

/-- Takes every complete record off a buffer, stopping behind one that is too long. -/
def drain (framing : Framing) (buffer : Octets) : Drained :=
  match _found : framing.next buffer with
  | .incomplete => ⟨[], none, buffer⟩
  | .tooLarge size rest => ⟨[], some size, rest⟩
  | .record record rest =>
      let behind := framing.drain rest
      { behind with records := record :: behind.records }
termination_by buffer.length
decreasing_by
  have shorter := length_of_next_record _found
  omega

/-! ## The end of a stream -/

/-- Why a stream does not go on as records. -/
inductive Error where
  /-- A record cannot be written or read. -/
  | record (error : TlvError)
  /-- The stream itself failed. -/
  | fault (fault : Fault)
  deriving DecidableEq

/-- The error in words. -/
def Error.message : Error → String
  | .record cause => cause.message
  | .fault cause => "TLV stream I/O error: " ++ cause.message

/-- Reads the front of a buffer to which nothing will be added: octets that are
not a complete record are an error then. What is left of the buffer comes second. -/
def last (framing : Framing) (buffer : Octets) : Except Error (Option Tlv) × Octets :=
  match framing.next buffer with
  | .record record rest => (.ok (some record), rest)
  | .tooLarge size rest => (.error (.record (framing.refusal size)), rest)
  | .incomplete =>
      if buffer.isEmpty then (.ok none, buffer)
      else (.error (.fault ⟨.other, some "bytes remaining on stream"⟩), buffer)

end Framing

end Commissioner
