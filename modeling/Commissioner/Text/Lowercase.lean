import Commissioner.Text.CaseTable
import Commissioner.Text.CodePoints

/-!
# Lower case

A text is put into lower case character by character, with the full mapping of
Unicode. Two characters are special: U+0130 becomes two characters, and a
capital sigma becomes the final small sigma where it ends a word, that is, where
a cased character comes before it and none comes after it, case-ignorable
characters apart.
-/

set_option autoImplicit false

namespace Commissioner.Text

/-- Whether a character has the property `Cased`. -/
def isCased (c : Char) : Bool :=
  CodePoints.mem CaseTable.cased c

/-- Whether a character has the property `Case_Ignorable`. -/
def isCaseIgnorable (c : Char) : Bool :=
  CodePoints.mem CaseTable.caseIgnorable c

/-- The distance from a code point to its lower-case form in the runs. -/
def lowerShift (n : Nat) : List (Nat × Nat × Nat × Int) → Int
  | [] => 0
  | (first, last, step, shift) :: rest =>
      if first ≤ n ∧ n ≤ last ∧ (n - first) % step = 0 then shift else lowerShift n rest

/-- The lower-case form of a character that does not depend on its neighbours. -/
def lowerChar (c : Char) : List Char :=
  if c.toNat < 0x80 then [c.toLower]
  else if c = '\u0130' then ['i', '\u0307']
  else [Char.ofNat ((c.toNat : Int) + lowerShift c.toNat CaseTable.lowerRuns).toNat]

/-- Whether the first character that is not case-ignorable is cased. -/
def casedNext (chars : List Char) : Bool :=
  match chars.dropWhile isCaseIgnorable with
  | c :: _ => isCased c
  | [] => false

/-- Lower-cases characters, where `before` holds those in front, last first. -/
def lowerFrom (before : List Char) : List Char → List Char
  | [] => []
  | c :: rest =>
      let form :=
        if c = 'Σ' then
          if casedNext before && !casedNext rest then ['ς'] else ['σ']
        else lowerChar c
      form ++ lowerFrom (c :: before) rest

/-- A text in lower case. -/
def lowercase (text : String) : String :=
  String.ofList (lowerFrom [] text.toList)

end Commissioner.Text
