/-!
# Faults

A fault is what goes wrong below the records: in reading, writing, opening or
looking something up. It has a kind, and words of its own or those of its kind.
-/

set_option autoImplicit false

namespace Commissioner

inductive FaultKind where
  | brokenPipe
  | connectionReset
  | connectionRefused
  | unexpectedEof
  | permissionDenied
  | timedOut
  | notFound
  | invalidInput
  | invalidData
  | writeZero
  | interrupted
  | other
  deriving DecidableEq, Inhabited

def FaultKind.words : FaultKind → String
  | brokenPipe => "broken pipe"
  | connectionReset => "connection reset"
  | connectionRefused => "connection refused"
  | unexpectedEof => "unexpected end of file"
  | permissionDenied => "permission denied"
  | timedOut => "timed out"
  | notFound => "entity not found"
  | invalidInput => "invalid input parameter"
  | invalidData => "invalid data"
  | writeZero => "write zero"
  | interrupted => "operation interrupted"
  | other => "other error"

/-- Something that went wrong below the records. -/
structure Fault where
  kind : FaultKind
  /-- Words that stand in place of those of the kind. -/
  words : Option String
  deriving DecidableEq, Inhabited

namespace Fault

/-- The fault in words. -/
def message (fault : Fault) : String :=
  fault.words.getD fault.kind.words

/-- A fault in the words of its kind. -/
def plain (kind : FaultKind) : Fault :=
  ⟨kind, none⟩

end Fault

end Commissioner
