import Commissioner.Text.Fields

/-!
# Hosts by their numbers

A host is known by a number in one of two notations: four decimal numbers of eight
bits with dots between them, or eight hexadecimal numbers of sixteen bits with
colons between them. In the longer one a pair of colons stands for zeros that are
left out, and the end may be in the shorter one.
-/

set_option autoImplicit false

namespace Commissioner.HostNumber

/-- The number that parts spell as digits to a base. -/
def digits (base : Nat) (parts : List Nat) : Nat :=
  parts.foldl (fun n part => n * base + part) 0

/-- The value of a hexadecimal digit. -/
def hexDigit? (c : Char) : Option Nat :=
  if '0' ≤ c ∧ c ≤ '9' then some (c.toNat - 48)
  else if 'a' ≤ c ∧ c ≤ 'f' then some (c.toNat - 87)
  else if 'A' ≤ c ∧ c ≤ 'F' then some (c.toNat - 55)
  else none

/-- The number that characters spell as digits to a base. -/
def number? (base : Nat) (chars : List Char) : Option Nat :=
  match chars.mapM hexDigit? with
  | some values => if values.all (· < base) then some (digits base values) else none
  | none => none

/-! ## The short notation -/

/-- The number of eight bits that characters spell without leading zeros. -/
def octet? (chars : List Char) : Option Nat :=
  if chars.isEmpty || (chars.head? == some '0' && chars.length ≠ 1) then none
  else
    match number? 10 chars with
    | some n => if n < 256 then some n else none
    | none => none

/-- The number that four octets with dots between them spell. -/
def short? (chars : List Char) : Option Nat :=
  match (Fields.split '.' chars).mapM octet? with
  | some [a, b, c, d] => some (digits 256 [a, b, c, d])
  | _ => none

/-! ## The long notation -/

/-- The number of sixteen bits that one to four hexadecimal digits spell. -/
def group? (chars : List Char) : Option Nat :=
  if chars.isEmpty || 4 < chars.length then none else number? 16 chars

/-- The numbers of sixteen bits that parts spell, the last of which may be in the
short notation. -/
def groups? : List (List Char) → Option (List Nat)
  | [] => some []
  | [last] =>
      match group? last with
      | some n => some [n]
      | none => (short? last).map fun n => [n / 65536, n % 65536]
  | part :: rest =>
      match group? part, groups? rest with
      | some n, some others => some (n :: others)
      | _, _ => none

/-- The numbers of sixteen bits that a text with colons spells. -/
def run? (chars : List Char) : Option (List Nat) :=
  if chars.isEmpty then some [] else groups? (Fields.split ':' chars)

/-- What stands before the first pair of colons and what behind it. -/
def gap? : List Char → Option (List Char × List Char)
  | ':' :: ':' :: rest => some ([], rest)
  | c :: rest => (gap? rest).map fun (front, back) => (c :: front, back)
  | [] => none

/-- The eight groups that a text spells, where a pair of colons stands for as many
groups of zeros as are left out, of which there is at least one. The short
notation stands at the end alone. -/
def long? (chars : List Char) : Option (List Nat) :=
  match gap? chars with
  | none =>
      match run? chars with
      | some groups => if groups.length = 8 then some groups else none
      | none => none
  | some (front, back) =>
      match run? front, run? back with
      | some front', some back' =>
          if front.contains '.' ∨ 7 < front'.length + back'.length then none
          else some (front' ++ List.replicate (8 - front'.length - back'.length) 0 ++ back')
      | _, _ => none

end Commissioner.HostNumber
