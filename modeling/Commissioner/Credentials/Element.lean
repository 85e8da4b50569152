import Commissioner.Octets

/-!
# Elements

Certificates and keys are trees of elements. An element is written as a tag, the
length of its content and the content. A length below 128 is one octet; a longer
one is spelled by the one or two octets that it needs, behind an octet that says
how many. No other spelling of a length is read, so every element has one
written form.

Readers take elements off the front of a run of octets and fail with the flaws
of whoever uses them.
-/

set_option autoImplicit false

namespace Commissioner

structure Element where
  /-- What its content is. -/
  tag : UInt8
  content : Octets
  deriving DecidableEq

namespace Element

/-! ## Tags -/

/-- The tag of truth values. -/
def boolean : UInt8 := 0x01

/-- The tag of numbers. -/
def integer : UInt8 := 0x02

/-- The tag of runs of bits. -/
def bitString : UInt8 := 0x03

/-- The tag of runs of octets. -/
def octetString : UInt8 := 0x04

/-- The tag of elements that stand for nothing. -/
def nothing : UInt8 := 0x05

/-- The tag of identifiers. -/
def identifier : UInt8 := 0x06

/-- The tag of elements that hold others in order. -/
def group : UInt8 := 0x30

/-- The tag of an element in the place with this number that holds another. -/
def place (number : UInt8) : UInt8 := 0xA0 + number

/-- The tag of an element in the place with this number whose own tag is left
out. -/
def implicitPlace (number : UInt8) : UInt8 := 0x80 + number

/-! ## Writing and reading one element -/

/-- The spelling of a length below `2 ^ 16`. -/
def lengthOctets (n : Nat) : Octets :=
  if n < 128 then [UInt8.ofNat n]
  else if n < 256 then [0x81, UInt8.ofNat n]
  else 0x82 :: Octets.ofWord n

/-- An element as it is written. -/
def encode (element : Element) : Octets :=
  element.tag :: (lengthOctets element.content.length ++ element.content)

/-- Reads a length, and leaves what comes behind it. -/
def readLength : Octets → Option (Nat × Octets)
  | 0x81 :: n :: rest => if 128 ≤ n.toNat then some (n.toNat, rest) else none
  | 0x82 :: high :: low :: rest =>
      if 256 ≤ Octets.word high low then some (Octets.word high low, rest) else none
  | n :: rest => if n.toNat < 128 then some (n.toNat, rest) else none
  | [] => none

/-- Whether a tag is longer than one octet, which no element here has. -/
def isLongTag (tag : UInt8) : Bool :=
  tag &&& 0x1F == 0x1F

/-- Reads an element, and leaves what comes behind it. -/
def read : Octets → Option (Element × Octets)
  | [] => none
  | tag :: rest =>
      if isLongTag tag then none
      else
        match readLength rest with
        | none => none
        | some (length, rest) =>
            if length ≤ rest.length then some (⟨tag, rest.take length⟩, rest.drop length)
            else none

/-! ## Readers -/

/-- A reader takes something off the front of a run of octets, or fails. -/
abbrev Reader (ε α : Type) : Type :=
  StateT Octets (Except ε) α

namespace Reader

variable {ε α : Type}

/-- Reads the content of an element with a tag. -/
def expect (tag : UInt8) (flaw : ε) : Reader ε Octets := fun octets =>
  match Element.read octets with
  | none => .error flaw
  | some (element, rest) => if element.tag = tag then .ok (element.content, rest) else .error flaw

/-- Runs a reader on octets of which it has to take all. -/
def whole (reader : Reader ε α) (flaw : ε) (octets : Octets) : Except ε α :=
  match reader octets with
  | .error flaw => .error flaw
  | .ok (value, []) => .ok value
  | .ok _ => .error flaw

/-- Runs a reader on the content of an element with a tag, of which it has to take
all. -/
def within (tag : UInt8) (flaw : ε) (reader : Reader ε α) : Reader ε α := do
  let content ← expect tag flaw
  whole reader flaw content

def isNext (tag : UInt8) : Reader ε Bool := do
  return (← get).head? == some tag

/-- Whether nothing is left. -/
def isAtEnd : Reader ε Bool := do
  return (← get).isEmpty

/-- All that is left. -/
def remainder : Reader ε Octets :=
  fun octets => .ok (octets, [])

/-- The next octet. -/
def octet (flaw : ε) : Reader ε UInt8
  | [] => .error flaw
  | octet :: rest => .ok (octet, rest)

end Reader

/-! ## Numbers and bits -/

/-- The octets of a number that is not negative, without those that its sign
takes: an octet of zero may stand in front only where the next one would make the
number negative. -/
def magnitude? : Octets → Option Octets
  | [] => none
  | [0] => some [0]
  | 0 :: next :: rest => if 128 ≤ next.toNat then some (next :: rest) else none
  | first :: rest => if first.toNat < 128 then some (first :: rest) else none

/-- Reads the octets of a number that is not negative. -/
def Reader.magnitude {ε : Type} (flaw : ε) : Reader ε Octets := do
  match magnitude? (← Reader.expect integer flaw) with
  | some octets => return octets
  | none => throw flaw

/-- Reads a number that is not negative and takes one octet. -/
def Reader.smallNumber {ε : Type} (flaw : ε) : Reader ε UInt8 := do
  match ← Reader.magnitude flaw with
  | [n] => return n
  | _ => throw flaw

/-- Reads a run of bits that fills its octets. -/
def Reader.bits {ε : Type} (flaw : ε) : Reader ε Octets :=
  Reader.within bitString flaw do
    if (← Reader.octet flaw) = 0 then Reader.remainder else throw flaw

end Element

end Commissioner
