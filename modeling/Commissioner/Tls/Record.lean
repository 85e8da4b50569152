import Commissioner.Tls.Decoder

/-!
# Records

TLS travels in records: the kind of the content, a version, a length, and the
content. What is wrong with the front of a record shows as soon as the octets that
tell it have come.
-/

set_option autoImplicit false

namespace Commissioner.Tls

/-- The kinds of record. -/
inductive ContentType where
  | changeCipherSpec
  | alert
  | handshake
  | applicationData
  | heartbeat
  deriving DecidableEq

namespace ContentType

/-- The kind that an octet stands for. -/
def ofOctet? (octet : UInt8) : Option ContentType :=
  if octet = 0x14 then some changeCipherSpec
  else if octet = 0x15 then some alert
  else if octet = 0x16 then some handshake
  else if octet = 0x17 then some applicationData
  else if octet = 0x18 then some heartbeat
  else none

/-- The name of a kind. -/
def title : ContentType → String
  | changeCipherSpec => "ChangeCipherSpec"
  | alert => "Alert"
  | handshake => "Handshake"
  | applicationData => "ApplicationData"
  | heartbeat => "Heartbeat"

end ContentType

structure Record where
  kind : ContentType
  /-- The number of its version. -/
  version : Nat
  content : Octets
  deriving DecidableEq

namespace Record

/-- The number of octets in front of the content. -/
def headSize : Nat := 5

/-- The number of octets that the content stays below. -/
def sizeLimit : Nat := 18432

/-- Whether a record may bear a version. -/
def isVersion (high low : UInt8) : Bool :=
  high = 3 || (high = 0 && low = 2)
    || (high = 0xFE && (low = 0xFF || low = 0xFD || low = 0xFC))

/-- The kind, version and length at the front of a record, as far as they have
come. -/
def head? : Octets → Except Corruption (Option (ContentType × Nat × Nat))
  | [] => .ok none
  | first :: rest =>
      match ContentType.ofOctet? first with
      | none => .error .recordKind
      | some kind =>
          match rest with
          | major :: minor :: rest =>
              if isVersion major minor then
                match rest with
                | high :: low :: _ =>
                    let length := Octets.word high low
                    if length = 0 ∧ kind ≠ .applicationData then .error .emptyRecord
                    else if sizeLimit ≤ length then .error .largeRecord
                    else .ok (some (kind, Octets.word major minor, length))
                | _ => .ok none
              else .error .recordVersion
          | _ => .ok none

/-- The first record among octets, if all of it has come, and the octets behind
it. -/
def next? (octets : Octets) : Except Corruption (Option (Record × Octets)) :=
  match head? octets with
  | .error corruption => .error corruption
  | .ok none => .ok none
  | .ok (some (kind, version, length)) =>
      if headSize + length ≤ octets.length then
        .ok (some (⟨kind, version, (octets.drop headSize).take length⟩,
          octets.drop (headSize + length)))
      else .ok none

/-- Behind a record there are fewer octets than before. -/
theorem length_next? {octets rest : Octets} {record : Record}
    (found : next? octets = .ok (some (record, rest))) : rest.length < octets.length := by
  unfold next? at found
  split at found
  next => cases found
  next => cases found
  next kind version length _ =>
    split at found
    next enough =>
      simp only [Except.ok.injEq, Option.some.injEq, Prod.mk.injEq] at found
      obtain ⟨-, rfl⟩ := found
      simp only [List.length_drop, headSize] at enough ⊢
      omega
    next => cases found

end Record

end Commissioner.Tls
