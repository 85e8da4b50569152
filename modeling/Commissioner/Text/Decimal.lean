/-!
# Decimal numbers in texts

A number is read from ASCII digits alone: at least one of them, leading zeros
allowed, a single plus sign allowed in front, and nothing above a bound.
-/

set_option autoImplicit false

namespace Commissioner.Decimal

/-- The value of a digit. -/
def digit? (c : Char) : Option Nat :=
  if '0' ≤ c ∧ c ≤ '9' then some (c.toNat - 48) else none

/-- The number that digits spell behind a number already read. -/
def readFrom (sofar : Nat) : List Char → Option Nat
  | [] => some sofar
  | c :: rest =>
      match digit? c with
      | some d => readFrom (sofar * 10 + d) rest
      | none => none

/-- The number that one or more digits spell. -/
def readDigits : List Char → Option Nat
  | [] => none
  | digits => readFrom 0 digits

/-- The number that a text spells, with a plus sign allowed in front, if it is
at most `bound`. -/
def readChars (bound : Nat) (chars : List Char) : Option Nat :=
  let spelled := match chars with
    | '+' :: rest => readDigits rest
    | _ => readDigits chars
  match spelled with
  | some n => if n ≤ bound then some n else none
  | none => none

/-- The number that a text spells, if it is at most `bound`. -/
def read? (bound : Nat) (text : String) : Option Nat :=
  readChars bound text.toList

/-- The largest number of a machine word. -/
def wordBound : Nat := 0xFFFFFFFFFFFFFFFF

/-- The largest number of a signed machine word. -/
def signedBound : Nat := 0x7FFFFFFFFFFFFFFF

/-- The integer that a text spells, with either sign allowed in front, if it
fits a signed machine word. -/
def readInt? (text : String) : Option Int :=
  match text.toList with
  | '-' :: rest =>
      match readDigits rest with
      | some n => if n ≤ signedBound + 1 then some (-(n : Int)) else none
      | none => none
  | chars => (readChars signedBound chars).map Int.ofNat

end Commissioner.Decimal
