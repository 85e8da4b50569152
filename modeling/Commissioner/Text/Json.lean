/-!
# JSON texts

The part of JSON that results are written in: objects of numbers and strings on
one line, without blanks, with the fields in the order given. In a string a
quote, a backslash and every control character below U+0020 is escaped and all
else stands for itself.
-/

set_option autoImplicit false

namespace Commissioner.Json

/-- The digit of a number below sixteen, in lower case. -/
def hexDigit (n : Nat) : Char :=
  if n < 10 then Char.ofNat (48 + n) else Char.ofNat (87 + n)

/-- A character as it stands in a string. -/
def escape (c : Char) : List Char :=
  if c = '"' then ['\\', '"']
  else if c = '\\' then ['\\', '\\']
  else if c = '\x08' then ['\\', 'b']
  else if c = '\t' then ['\\', 't']
  else if c = '\n' then ['\\', 'n']
  else if c = '\x0c' then ['\\', 'f']
  else if c = '\r' then ['\\', 'r']
  else if c.toNat < 0x20 then
    ['\\', 'u', '0', '0', hexDigit (c.toNat / 16), hexDigit (c.toNat % 16)]
  else [c]

/-- A string with its quotes. -/
def string (content : String) : String :=
  String.ofList ('"' :: content.toList.flatMap escape ++ ['"'])

/-- A value of a field. -/
inductive Value where
  | number (n : Nat)
  | text (content : String)
  deriving DecidableEq

def Value.written : Value → String
  | number n => toString n
  | text content => string content

def object (fields : List (String × Value)) : String :=
  "\x7b" ++ ",".intercalate (fields.map fun field => string field.1 ++ ":" ++ field.2.written)
    ++ "\x7d"

end Commissioner.Json
