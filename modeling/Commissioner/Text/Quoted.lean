import Commissioner.Text.CodePoints
import Commissioner.Text.PrintTable

/-!
# Quoted texts

A quoted text shows each character so that it can be told from its neighbours:
quotes and backslashes behind a backslash, the common controls by a letter, and
every character without a glyph of its own, or that would extend the one before
it, by its number in braces. A single character is quoted by the other quote
mark.
-/

set_option autoImplicit false

namespace Commissioner.Quoted

/-- The hexadecimal digits of a number, without leading zeros. -/
def hexDigits (n : Nat) : List Char :=
  Nat.toDigits 16 n

/-- Whether a character has a glyph of its own. -/
def isPrintable (c : Char) : Bool :=
  c = ' ' || !CodePoints.mem PrintTable.unprintable c

/-- Whether a character extends the one in front of it. -/
def isExtender (c : Char) : Bool :=
  CodePoints.mem PrintTable.graphemeExtend c

/-- A character as it stands between quotes, where `quote` is the mark around it. -/
def escape (quote c : Char) : List Char :=
  if c = quote then ['\\', c]
  else if c = '\\' then ['\\', '\\']
  else if c = '\x00' then ['\\', '0']
  else if c = '\t' then ['\\', 't']
  else if c = '\n' then ['\\', 'n']
  else if c = '\r' then ['\\', 'r']
  else if 0x20 ≤ c.toNat && c.toNat < 0x7F then [c]
  else if isExtender c || !isPrintable c then
    ['\\', 'u', '\x7b'] ++ hexDigits c.toNat ++ ['\x7d']
  else [c]

/-- A text between double quotes. -/
def text (content : String) : String :=
  String.ofList ('"' :: content.toList.flatMap (escape '"') ++ ['"'])

/-- A character between single quotes. -/
def char (c : Char) : String :=
  String.ofList ('\'' :: escape '\'' c ++ ['\''])

/-- Quoted texts in brackets, with commas between them. -/
def list (contents : List String) : String :=
  "[" ++ ", ".intercalate (contents.map text) ++ "]"

end Commissioner.Quoted
