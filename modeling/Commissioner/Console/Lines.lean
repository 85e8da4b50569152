import Commissioner.Console.Prompt
import Commissioner.Text.Utf8

/-!
# Lines

Octets entered at a terminal are taken as lines. A line ends with a line feed, or
with the last octet there is; a carriage return in front of the line feed belongs
to the end. A line that is not UTF-8 without its end is a fault.
-/

set_option autoImplicit false

namespace Commissioner.Lines

/-- The lines of octets, each with its end. `line` holds the octets of the line at
hand, last first. -/
def splitFrom (line : Octets) : Octets → List Octets
  | [] => if line.isEmpty then [] else [line.reverse]
  | octet :: rest =>
      if octet = 0x0A then (octet :: line).reverse :: splitFrom [] rest
      else splitFrom (octet :: line) rest

/-- The lines of octets, each with its end. -/
def split (octets : Octets) : List Octets :=
  splitFrom [] octets

/-- The octets of a line without its end. -/
def withoutEnd (line : Octets) : Octets :=
  match line.reverse with
  | 0x0A :: 0x0D :: rest => rest.reverse
  | 0x0A :: rest => rest.reverse
  | _ => line

/-- What a line entered answers to a prompt. -/
def answer (line : Octets) : Answer :=
  match Utf8.read (withoutEnd line) with
  | .ok chars => .line (String.ofList chars)
  | .error flaw => .fault ⟨.invalidData, some flaw.message⟩

/-- What octets entered answer to prompts, each line at once. -/
def inputs (octets : Octets) : List Input :=
  (split octets).map fun line => ⟨some 0, answer line⟩

end Commissioner.Lines
