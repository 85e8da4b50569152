/-!
# Spans of time

Spans are whole milliseconds. From a second on they are written in seconds, with
as many places as they need; below that in milliseconds; and no time at all is
written in nanoseconds.
-/

set_option autoImplicit false

namespace Commissioner.Duration

/-- The places behind the point for a number of milliseconds below a second. -/
def places (ms : Nat) : String :=
  if ms = 0 then ""
  else if ms % 100 = 0 then "." ++ toString (ms / 100)
  else if ms % 10 = 0 then
    "." ++ toString (ms / 100) ++ toString (ms / 10 % 10)
  else "." ++ toString (ms / 100) ++ toString (ms / 10 % 10) ++ toString (ms % 10)

/-- A span in words. -/
def text (ms : Nat) : String :=
  if ms = 0 then "0ns"
  else if ms < 1000 then toString ms ++ "ms"
  else toString (ms / 1000) ++ places (ms % 1000) ++ "s"

/-- A span that may be missing, in words. -/
def optionText : Option Nat → String
  | none => "None"
  | some ms => "Some(" ++ text ms ++ ")"

end Commissioner.Duration
