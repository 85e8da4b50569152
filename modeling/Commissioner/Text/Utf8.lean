import Commissioner.Octets

/-!
# Reading UTF-8

A run of octets is cut into pieces: a character, or a maximal run that is the
beginning of no character. The lossy reading puts U+FFFD for every such run and
never fails. The strict reading reports the first one, where it starts, and
whether the octets simply end inside a character.
-/

set_option autoImplicit false

namespace Commissioner.Utf8

/-! ## Pieces -/

/-- What the front of a run of octets holds, with the number of octets that it
takes behind the first. -/
inductive Piece where
  /-- A whole character. -/
  | char (c : Char) (more : Nat)
  /-- A maximal beginning of no character. -/
  | stray (more : Nat)
  /-- A beginning of a character that the end of the octets cuts off. -/
  | cut (more : Nat)
  deriving DecidableEq

namespace Piece

/-- The number of octets that a piece takes behind the first. -/
def more : Piece → Nat
  | char _ more => more
  | stray more => more
  | cut more => more

def shown : Piece → Char
  | char c _ => c
  | stray _ => '\uFFFD'
  | cut _ => '\uFFFD'

end Piece

/-- Whether an octet lies between two bounds. -/
def within (low high octet : UInt8) : Bool :=
  low ≤ octet && octet ≤ high

/-- Whether an octet continues a character. -/
def isTail (octet : UInt8) : Bool :=
  within 0x80 0xBF octet

/-- The six bits that a continuing octet adds. -/
def tailBits (octet : UInt8) : Nat :=
  octet.toNat % 64

/-- The bounds on the second octet behind a leading octet of three or four. -/
def secondBounds (lead : UInt8) : UInt8 × UInt8 :=
  if lead = 0xE0 then (0xA0, 0xBF)
  else if lead = 0xED then (0x80, 0x9F)
  else if lead = 0xF0 then (0x90, 0xBF)
  else if lead = 0xF4 then (0x80, 0x8F)
  else (0x80, 0xBF)

/-- The piece at the front of `lead :: rest`. -/
def first (lead : UInt8) (rest : Octets) : Piece :=
  if lead < 0x80 then .char (Char.ofNat lead.toNat) 0
  else if within 0xC2 0xDF lead then
    match rest with
    | [] => .cut 0
    | b :: _ =>
        if isTail b then .char (Char.ofNat (lead.toNat % 32 * 64 + tailBits b)) 1
        else .stray 0
  else if within 0xE0 0xEF lead then
    match rest with
    | [] => .cut 0
    | b :: rest =>
        if within (secondBounds lead).1 (secondBounds lead).2 b then
          match rest with
          | [] => .cut 1
          | c :: _ =>
              if isTail c then
                .char (Char.ofNat (lead.toNat % 16 * 4096 + tailBits b * 64 + tailBits c)) 2
              else .stray 1
        else .stray 0
  else if within 0xF0 0xF4 lead then
    match rest with
    | [] => .cut 0
    | b :: rest =>
        if within (secondBounds lead).1 (secondBounds lead).2 b then
          match rest with
          | [] => .cut 1
          | c :: rest =>
              if isTail c then
                match rest with
                | [] => .cut 2
                | d :: _ =>
                    if isTail d then
                      .char (Char.ofNat (lead.toNat % 8 * 262144 + tailBits b * 4096
                        + tailBits c * 64 + tailBits d)) 3
                    else .stray 2
              else .stray 1
        else .stray 0
  else .stray 0

/-- The pieces of a run of octets, in order. -/
def pieces : Octets → List Piece
  | [] => []
  | lead :: rest =>
      let piece := first lead rest
      piece :: pieces (rest.drop piece.more)
termination_by octets => octets.length
decreasing_by
  simp only [List.length_drop, List.length_cons]
  omega

/-! ## The two readings -/

/-- The characters of a run of octets, with U+FFFD for every run that is the
beginning of no character. -/
def lossy (octets : Octets) : List Char :=
  (pieces octets).map Piece.shown

/-- The text of a run of octets, with U+FFFD where it is not UTF-8. -/
def lossyText (octets : Octets) : String :=
  String.ofList (lossy octets)

/-- Where and how octets fail to be UTF-8. -/
inductive Flaw where
  /-- A run of this size, starting here, begins no character. -/
  | invalid (size start : Nat)
  /-- The octets end inside the character that starts here. -/
  | incomplete (start : Nat)
  deriving DecidableEq

/-- The flaw in words. -/
def Flaw.message : Flaw → String
  | invalid size start =>
      "invalid utf-8 sequence of " ++ toString size ++ " bytes from index " ++ toString start
  | incomplete start => "incomplete utf-8 byte sequence from index " ++ toString start

/-- The characters of pieces, the first of which starts at `start`, or the first flaw. -/
def readPieces (start : Nat) : List Piece → Except Flaw (List Char)
  | [] => .ok []
  | .char c more :: rest => (readPieces (start + more + 1) rest).map (c :: ·)
  | .stray more :: _ => .error (.invalid (more + 1) start)
  | .cut _ :: _ => .error (.incomplete start)

/-- The characters of a run of octets, if it is UTF-8 from end to end. -/
def read (octets : Octets) : Except Flaw (List Char) :=
  readPieces 0 (pieces octets)

end Commissioner.Utf8
