import Commissioner.Octets

/-!
# Base 64

Four characters spell three octets. The end may be short: two characters spell
one octet and three spell two, with or without padding up to four. Padding
stands nowhere else. Blanks are skipped, and the bits that a short end leaves
over are dropped.
-/

set_option autoImplicit false

namespace Commissioner.Base64

/-- Why a text is not base 64. -/
inductive Flaw where
  /-- This octet is outside the alphabet. -/
  | invalidCharacter (octet : UInt8)
  /-- Padding stands before the end. -/
  | prematurePadding
  /-- The end is too short or padded wrongly. -/
  | invalidTrailingPadding
  deriving DecidableEq

/-- The flaw in words. -/
def Flaw.message : Flaw → String
  | .invalidCharacter octet => "InvalidCharacter(" ++ toString octet.toNat ++ ")"
  | .prematurePadding => "PrematurePadding"
  | .invalidTrailingPadding => "InvalidTrailingPadding"

/-- What an octet stands for. -/
inductive Symbol where
  /-- Six bits. -/
  | bits (n : Nat)
  /-- Padding. -/
  | pad
  deriving DecidableEq

/-- Whether an octet is skipped. -/
def isSkipped (octet : UInt8) : Bool :=
  octet = 0x20 || (0x09 ≤ octet && octet ≤ 0x0D)

/-- What an octet stands for, if it is in the alphabet. -/
def symbol? (octet : UInt8) : Option Symbol :=
  let n := octet.toNat
  if 65 ≤ n ∧ n ≤ 90 then some (.bits (n - 65))
  else if 97 ≤ n ∧ n ≤ 122 then some (.bits (n - 71))
  else if 48 ≤ n ∧ n ≤ 57 then some (.bits (n + 4))
  else if n = 43 then some (.bits 62)
  else if n = 47 then some (.bits 63)
  else if n = 61 then some .pad
  else none

/-- The octets that a whole group of four spells. -/
def group (a b c d : Nat) : Octets :=
  let n := ((a * 64 + b) * 64 + c) * 64 + d
  [UInt8.ofNat (n / 65536), UInt8.ofNat (n / 256 % 256), UInt8.ofNat (n % 256)]

/-- The octets that a short or padded end spells, given up to four symbols. -/
def ending : List Symbol → Except Flaw Octets
  | [] => .ok []
  | [.bits a, .bits b] => .ok ((group a b 0 0).take 1)
  | [.bits a, .bits b, .pad, .pad] => .ok ((group a b 0 0).take 1)
  | [.bits a, .bits b, .bits c] => .ok ((group a b c 0).take 2)
  | [.bits a, .bits b, .bits c, .pad] => .ok ((group a b c 0).take 2)
  | [.bits a, .bits b, .bits c, .bits d] => .ok (group a b c d)
  | _ => .error .invalidTrailingPadding

/-- The octets that up to eight symbols spell at the end of a text. -/
def lastBlock : List Symbol → Except Flaw Octets
  | .bits a :: .bits b :: .bits c :: .bits d :: next :: rest =>
      (ending (next :: rest)).map (group a b c d ++ ·)
  | block => if block.length ≤ 4 then ending block else .error .prematurePadding

/-- The octets that eight symbols spell when more follow. -/
def fullBlock : List Symbol → Except Flaw Octets
  | [.bits a, .bits b, .bits c, .bits d, .bits e, .bits f, .bits g, .bits h] =>
      .ok (group a b c d ++ group e f g h)
  | _ => .error .prematurePadding

/-- Reads a text in base 64 behind the symbols of a block not yet read, which is
read once a ninth symbol shows that it is not the last. -/
def decodeFrom (block : List Symbol) : Octets → Except Flaw Octets
  | [] => lastBlock block
  | octet :: rest =>
      if isSkipped octet then decodeFrom block rest
      else
        match symbol? octet with
        | none => .error (.invalidCharacter octet)
        | some symbol =>
            if block.length < 8 then decodeFrom (block ++ [symbol]) rest
            else
              match fullBlock block with
              | .error flaw => .error flaw
              | .ok octets => (decodeFrom [symbol] rest).map (octets ++ ·)

/-- Reads a text in base 64. -/
def decode (text : Octets) : Except Flaw Octets :=
  decodeFrom [] text

end Commissioner.Base64
