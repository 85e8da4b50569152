import Commissioner.Peer
import Commissioner.Text.Decimal
import Commissioner.Text.HostNumber
import Commissioner.Text.Lowercase

/-!
# Addresses

An address is a host and a port with a colon between them. The host is a number
in one of the two notations of the internet, the longer of which stands in
brackets, or a name that has to be looked up. An address with a number for its
host is read strictly. Where that fails, everything in front of the last colon is
the host, which may then be a number in one of the older notations.
-/

set_option autoImplicit false

namespace Commissioner

/-! ## Hosts -/

/-- A host by its number. -/
inductive Host where
  /-- A number of 32 bits. -/
  | short (n : Nat)
  /-- Eight numbers of 16 bits, and whether the way out to the host is named. -/
  | long (groups : List Nat) (routed : Bool)
  deriving DecidableEq, Inhabited

namespace Host

open HostNumber

/-- The number that characters spell, to the base that its beginning tells: `0x`
for sixteen, a zero for eight, anything else for ten. -/
def anyBase? (chars : List Char) : Option Nat :=
  match chars with
  | [] => none
  | ['0'] => some 0
  | '0' :: 'x' :: rest | '0' :: 'X' :: rest => if rest.isEmpty then none else number? 16 rest
  | '0' :: rest => number? 8 rest
  | _ => number? 10 chars

/-- The number of 32 bits that so many numbers of eight bits and a last one spell
that fills all that they leave. -/
def filled? (front : List Nat) (last bound : Nat) : Option Nat :=
  if front.all (· < 256) ∧ last < bound then some (digits 256 front * bound + last) else none

/-- The number that up to four parts with dots between them spell, the last of
which fills all that the others leave. -/
def oldShort? (chars : List Char) : Option Nat :=
  match (Fields.split '.' chars).mapM anyBase? with
  | some [a] => filled? [] a 0x100000000
  | some [a, b] => filled? [a] b 0x1000000
  | some [a, b, c] => filled? [a, b] c 0x10000
  | some [a, b, c, d] => filled? [a, b, c] d 0x100
  | _ => none

/-- The number of 32 bits that eight groups stand for, if they stand for one. -/
def mapped? : List Nat → Option Nat
  | [0, 0, 0, 0, 0, 0xFFFF, high, low] => some (digits 65536 [high, low])
  | _ => none

/-- Whether groups mean something on one way out alone, by the first of them. -/
def isLocal : List Nat → Bool
  | [] => false
  | first :: _ =>
      first / 64 == 0x3FA || (first / 256 == 0xFF && (first % 16 == 1 || first % 16 == 2))

end Host

/-! ## Addresses -/

/-- Why the host of an address is not known. -/
inductive AddressFlaw where
  /-- The address has no port. -/
  | noPort
  /-- The port is no number of sixteen bits. -/
  | invalidPort
  /-- The host holds a zero. -/
  | zero
  /-- There is no such host. -/
  | unknown
  /-- The name of the host cannot be looked up. -/
  | noLookup
  deriving DecidableEq

/-- The flaw in words. -/
def AddressFlaw.message : AddressFlaw → String
  | .noPort => "invalid socket address"
  | .invalidPort => "invalid port value"
  | .zero => "file name contained an unexpected NUL byte"
  | .unknown => "failed to lookup address information: Name or service not known"
  | .noLookup => "failed to lookup address information: Temporary failure in name resolution"

namespace Address

/-- The largest port. -/
def maxPort : Nat := 65535

/-- The largest number of a way out. -/
def maxScope : Nat := 0xFFFFFFFF

/-- What stands before the last colon and what behind it. -/
def atLastColon? (chars : List Char) : Option (List Char × List Char) :=
  let back := chars.reverse
  match back.dropWhile (· ≠ ':') with
  | [] => none
  | _ :: front => some (front.reverse, (back.takeWhile (· ≠ ':')).reverse)

/-- Whether characters spell a port by digits alone. -/
def isPort (chars : List Char) : Bool :=
  !chars.isEmpty &&
    match HostNumber.number? 10 chars with
    | some n => n ≤ maxPort
    | none => false

/-- Whether a number names a way out, if characters spell one by digits alone. -/
def scope? (chars : List Char) : Option Bool :=
  if chars.isEmpty then none
  else
    match HostNumber.number? 10 chars with
    | some index => if index ≤ maxScope then some (index ≠ 0) else none
    | none => none

/-- The host that eight groups spell, with the number of the way out to it behind
a percent sign. -/
def long? (chars : List Char) : Option Host :=
  match chars.dropWhile (· ≠ '%') with
  | [] => (HostNumber.long? chars).map fun groups => .long groups false
  | _ :: scope =>
      match HostNumber.long? (chars.takeWhile (· ≠ '%')), scope? scope with
      | some groups, some routed => some (.long groups routed)
      | _, _ => none

/-- The host between brackets. -/
def bracketed? (chars : List Char) : Option Host :=
  match chars with
  | '[' :: rest => if rest.getLast? = some ']' then long? rest.dropLast else none
  | _ => none

/-- The host of an address that is read strictly. -/
def strict? (chars : List Char) : Option Host :=
  match atLastColon? chars with
  | none => none
  | some (front, port) =>
      if isPort port then
        match HostNumber.short? front with
        | some n => some (.short n)
        | none => bracketed? front
      else none

/-- Whether characters are a part of a host name. -/
def isLabel (chars : List Char) : Bool :=
  !chars.isEmpty && chars.length ≤ 63 && chars.all fun c => c.isAlphanum || c = '-' || c = '_'

/-- Whether characters are a host name: parts with dots between them, and perhaps
one at the end, without a hyphen at the beginning. A dot alone is one too. -/
def isName (chars : List Char) : Bool :=
  let name := if chars.getLast? = some '.' then chars.dropLast else chars
  name.isEmpty ||
    (name.length ≤ 253 && name.head? ≠ some '-' && (Fields.split '.' name).all isLabel)

/-- The names that are known without a network. -/
def ownNames : List (String × Host) :=
  [("localhost", .short 0x7F000001), ("*", .long [0, 0, 0, 0, 0, 0, 0, 1] false)]

/-- Looks a host up. Without a network only numbers and a few names are known. -/
def lookUp (chars : List Char) : Except AddressFlaw Host :=
  if chars.contains '\x00' then .error .zero
  else if chars.isEmpty then .error .unknown
  else
    match Host.oldShort? chars, long? chars, ownNames.lookup (Text.lowercase (String.ofList chars)) with
    | some n, _, _ => .ok (.short n)
    | none, some host, _ => .ok host
    | none, none, some host => .ok host
    | none, none, none => if isName chars then .error .noLookup else .error .unknown

def host (address : String) : Except AddressFlaw Host :=
  match strict? address.toList with
  | some host => .ok host
  | none =>
      match atLastColon? address.toList with
      | none => .error .noPort
      | some (front, port) =>
          match Decimal.readChars maxPort port with
          | none => .error .invalidPort
          | some _ => lookUp front

end Address

/-! ## A machine without a network -/

namespace Offline

/-- Why there is no way to a host on a machine without a network. -/
def obstacle : Host → String
  | .short _ => "Network is unreachable (os error 101)"
  | .long groups routed =>
      if (Host.mapped? groups).isSome then "Network is unreachable (os error 101)"
      else if Host.isLocal groups && !routed then "Invalid argument (os error 22)"
      else "Cannot assign requested address (os error 99)"

/-- Why no link to an address opens on a machine without a network. -/
def refusal (address : String) : TransportError :=
  .connect address
    (match Address.host address with
    | .error flaw => flaw.message
    | .ok host => obstacle host)

end Offline

end Commissioner
