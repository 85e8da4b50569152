import Commissioner.Tls.Record

/-!
# Joining messages

Handshake messages and records need not end together: a record can hold several
messages, and a message can go on in the next record. What has come of a message
is kept until the rest of it comes, and it takes the version of the record in
which it began.
-/

set_option autoImplicit false

namespace Commissioner.Tls

/-- A handshake message that is whole but not yet decoded. -/
structure RawMessage where
  /-- The number of its kind. -/
  kind : Nat
  content : Octets
  deriving DecidableEq

namespace RawMessage

/-- The number of octets in front of the content. -/
def headSize : Nat := 4

/-- The largest length of a content. -/
def sizeLimit : Nat := 0xFFFF

/-- The kind and the length at the front of a message, if they have come. -/
def head? : Octets → Option (Nat × Nat)
  | kind :: high :: middle :: low :: _ =>
      some (kind.toNat, (high.toNat * 256 + middle.toNat) * 256 + low.toNat)
  | _ => none

end RawMessage

/-- What has come of handshake messages. -/
structure Joining where
  /-- The octets of the message that is not whole. -/
  begun : Octets
  /-- The number of the version of the record in which it began. -/
  version : Nat
  deriving DecidableEq

namespace Joining

/-- Nothing. -/
def nothing : Joining :=
  ⟨[], 0⟩

/-- Whether no message has begun without being whole. -/
def isAligned (joining : Joining) : Bool :=
  joining.begun.isEmpty

/-- The whole messages at the front of octets, and what is left behind them. The
length of a message must not be too large, even if its end is not there. -/
def split (octets : Octets) : Except Corruption (List RawMessage × Octets) :=
  match octets with
  | [] => .ok ([], [])
  | first :: rest =>
      match RawMessage.head? (first :: rest) with
      | none => .ok ([], first :: rest)
      | some (kind, length) =>
          if RawMessage.sizeLimit < length then .error .largeMessage
          else
            let behind := (first :: rest).drop RawMessage.headSize
            if length ≤ behind.length then
              match split (behind.drop length) with
              | .error corruption => .error corruption
              | .ok (messages, left) => .ok (⟨kind, behind.take length⟩ :: messages, left)
            else .ok ([], first :: rest)
termination_by octets.length
decreasing_by
  simp only [List.length_drop, RawMessage.headSize, List.length_cons]
  omega

/-- The messages that a record makes whole, the number of their version, and what
is left. -/
def add (joining : Joining) (record : Record) :
    Except Corruption (List RawMessage × Nat × Joining) :=
  let version := if joining.isAligned then record.version else joining.version
  match split (joining.begun ++ record.content) with
  | .error corruption => .error corruption
  | .ok (messages, left) => .ok (messages, version, ⟨left, version⟩)

end Joining

end Commissioner.Tls
