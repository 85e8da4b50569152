import Commissioner.Peer

/-!
# How the program ends

The program ends with a code and, where it fails, with a message. A fault that
only says that the other end of a pipe or stream has gone is an ordinary failure;
any other is a defect. What goes wrong with a kind of link has a code of its own.
-/

set_option autoImplicit false

namespace Commissioner

/-- How the program ends. -/
structure Exit where
  /-- The code that it leaves. -/
  code : Nat
  /-- What it says of a failure. -/
  message : Option String
  deriving DecidableEq, Inhabited

namespace Exit

def successCode : Nat := 0

/-- The code of an ordinary failure. -/
def failureCode : Nat := 1

/-- The code of words on the command line that make no options. -/
def refusalCode : Nat := 2

/-- The code of a kind of link that fails. -/
def transportCode : Nat := 3

/-- The code of options that ask for what is not there. -/
def usageCode : Nat := 64

def defectCode : Nat := 125

/-- The end without failure. -/
def success : Exit :=
  ⟨successCode, none⟩

/-- Whether a fault only says that the other end has gone. -/
def isGone (fault : Fault) : Bool :=
  fault.kind = .brokenPipe || fault.kind = .unexpectedEof

/-- The end upon a fault in some context. -/
def ofFault (context : String) (fault : Fault) : Exit :=
  ⟨if isGone fault then failureCode else defectCode, some (context ++ ": " ++ fault.message)⟩

/-- The end upon a kind of link that fails in some context. -/
def ofTransportError (context : String) : TransportError → Exit
  | .fault fault => ofFault context fault
  | error => ⟨transportCode, some (context ++ ": " ++ error.message)⟩

end Exit

end Commissioner
