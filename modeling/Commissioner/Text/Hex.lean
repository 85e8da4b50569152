import Commissioner.Octets
import Commissioner.Text.Quoted

/-!
# Hexadecimal

Octets are written as two lower-case digits each. Reading takes digits of either
case; it works on the UTF-8 spelling of the text, so a character outside ASCII
is reported by its first octet. An odd number of octets is reported before any
of them is looked at.
-/

set_option autoImplicit false

namespace Commissioner.Hex

/-! ## Writing -/

/-- The lower-case digit for a number below sixteen. -/
def digit (n : Nat) : Char :=
  if n < 10 then Char.ofNat (48 + n) else Char.ofNat (87 + n)

/-- The two digits of an octet. -/
def octetDigits (octet : UInt8) : List Char :=
  [digit (octet.toNat / 16), digit (octet.toNat % 16)]

/-- The digits of a run of octets. -/
def encodeChars (octets : Octets) : List Char :=
  octets.flatMap octetDigits

/-- A run of octets in hexadecimal. -/
def encode (octets : Octets) : String :=
  String.ofList (encodeChars octets)

/-! ## Reading -/

/-- Why a text is not the hexadecimal of octets. -/
inductive Flaw where
  /-- The number of digits is odd. -/
  | oddLength
  /-- The octet at this position is no digit. -/
  | invalid (octet : UInt8) (position : Nat)
  deriving DecidableEq

/-- The flaw in words, where an octet is shown as the character of that number. -/
def Flaw.message : Flaw → String
  | oddLength => "Odd number of digits"
  | invalid octet position =>
      "Invalid character " ++ Quoted.char (Char.ofNat octet.toNat) ++ " at position "
        ++ toString position

/-- The value of an octet that spells a digit, in either case. -/
def value? (octet : UInt8) : Option Nat :=
  let n := octet.toNat
  if 48 ≤ n ∧ n ≤ 57 then some (n - 48)
  else if 65 ≤ n ∧ n ≤ 70 then some (n - 55)
  else if 97 ≤ n ∧ n ≤ 102 then some (n - 87)
  else none

/-- Reads pairs of digits, the first of which stands at `position`. -/
def decodeFrom (position : Nat) : Octets → Except Flaw Octets
  | high :: low :: rest =>
      match value? high with
      | none => .error (.invalid high position)
      | some h =>
          match value? low with
          | none => .error (.invalid low (position + 1))
          | some l => (decodeFrom (position + 2) rest).map (UInt8.ofNat (h * 16 + l) :: ·)
  | _ => .ok []

/-- Reads the octets that spell a hexadecimal text. -/
def decodeOctets (digits : Octets) : Except Flaw Octets :=
  if digits.length % 2 = 0 then decodeFrom 0 digits else .error .oddLength

/-- Reads a hexadecimal text. -/
def decode (text : String) : Except Flaw Octets :=
  decodeOctets (Octets.ofText text)

end Commissioner.Hex
