import Commissioner.Text.CodePoints
import Commissioner.Text.PrintTable
import Commissioner.Text.WidthTable

/-!
# The width of a text

A character takes two columns on a terminal when it is wide, none when it only
changes its neighbours, and one otherwise, controls included. A text takes the
sum of its characters, except where characters melt into one another: emoji
sequences take two columns as a whole, a selector behind a character can change
its width, and in some scripts letters form ligatures.

A text is measured from its end, because it is the character behind that decides
whether the one in front melts into it.
-/

set_option autoImplicit false

namespace Commissioner.Text

/-! ## Characters by themselves -/

/-- Whether a character takes no column of its own. -/
def isWeightless (c : Char) : Bool :=
  let n := c.toNat
  (CodePoints.mem WidthTable.defaultIgnorable c && n != 0x115F)
    || (CodePoints.mem PrintTable.graphemeExtend c && n != 0x2D7F)
    || CodePoints.mem WidthTable.hangulVowelsAndTrails c
    || CodePoints.mem WidthTable.prepended c
    || CodePoints.mem WidthTable.reservedMarks c
    || n == 0x605 || n == 0x70F || n == 0x890 || n == 0x891 || n == 0x8E2 || n == 0xA8FA

/-- The columns that a character takes by itself. -/
def charWidth (c : Char) : Nat :=
  let n := c.toNat
  if n ≤ 0xA0 then 1
  else if n == 0x17A4 then 2
  else if n == 0x17D8 then 3
  else if isWeightless c then 0
  else if CodePoints.mem WidthTable.wide c then 2
  else 1

/-! ## Kinds of characters that melt -/

/-- The joiner of characters that would not join by themselves. -/
def isJoiner (c : Char) : Bool :=
  c.toNat == 0x200D

/-- Whether a character is an emoji without a selector behind it. -/
def isEmoji (c : Char) : Bool :=
  CodePoints.mem WidthTable.emojiPresentation c

def isSkinTone (c : Char) : Bool :=
  0x1F3FB ≤ c.toNat && c.toNat ≤ 0x1F3FF

def isFlagHalf (c : Char) : Bool :=
  0x1F1E6 ≤ c.toNat && c.toNat ≤ 0x1F1FF

/-- Whether a character is a letter in the tag behind a flag. -/
def isTagLetter (c : Char) : Bool :=
  0xE0061 ≤ c.toNat && c.toNat ≤ 0xE007A

/-- Whether a character is a digit in the tag behind a flag. -/
def isTagDigit (c : Char) : Bool :=
  0xE0030 ≤ c.toNat && c.toNat ≤ 0xE0039

/-- Whether a character is a curved quotation mark. -/
def isCurvedQuote (c : Char) : Bool :=
  let n := c.toNat
  n == 0x2018 || n == 0x2019 || n == 0x201C || n == 0x201D

/-- Whether a character is an Arabic lam. -/
def isLam (c : Char) : Bool :=
  let n := c.toNat
  n == 0x644 || (0x6B5 ≤ n && n ≤ 0x6B8) || n == 0x76A || n == 0x8A6 || n == 0x8C7

/-- Whether a character is an Arabic alef. -/
def isAlef (c : Char) : Bool :=
  let n := c.toNat
  n == 0x622 || n == 0x623 || n == 0x625 || n == 0x627 || (0x671 ≤ n && n ≤ 0x673)
    || n == 0x675 || n == 0x773 || n == 0x774 || (0x870 ≤ n && n ≤ 0x882)

def isTifinaghConsonant (c : Char) : Bool :=
  let n := c.toNat
  (0x2D31 ≤ n && n ≤ 0x2D65) || n == 0x2D6F

/-- Whether a Khmer letter has a form below the line. -/
def hasSubscript (c : Char) : Bool :=
  let n := c.toNat
  (0x1780 ≤ n && n ≤ 0x1798 && n != 0x1783 && n != 0x1788 && n != 0x178D && n != 0x1794)
    || (0x179B ≤ n && n ≤ 0x179D) || n == 0x17A0 || n == 0x17A2 || n == 0x17A7
    || n == 0x17AB || n == 0x17AC || n == 0x17AF

/-- Whether a mark between two letters does not keep them apart. -/
def isIgnoredMark (c : Char) : Bool :=
  let n := c.toNat
  n == 0x34F || n == 0x17B4 || n == 0x17B5 || (0x180B ≤ n && n ≤ 0x180D) || n == 0x180F
    || (0xFE00 ≤ n && n ≤ 0xFE0F) || (0xE0100 ≤ n && n ≤ 0xE01EF)

/-- Whether a character between a lam and an alef does not keep them apart. -/
def isTransparent (c : Char) : Bool :=
  isWeightless c && !CodePoints.mem WidthTable.separating c

/-! ## What stands behind a character -/

/-- Letters that can melt into the one in front. -/
inductive Ligature where
  /-- The Hebrew lamed. -/
  | lamed
  /-- The Buginese ya. -/
  | ya
  /-- The Buginese ya with a vowel and a joiner in front. -/
  | vowelledYa
  /-- A Tifinagh consonant. -/
  | consonant
  /-- A Tifinagh consonant with the consonant joiner in front. -/
  | joinedConsonant
  /-- A Lisu tone that can be the second of two. -/
  | tone
  /-- The Old Turkic letter i. -/
  | orkhonI
  /-- A Khmer letter with a form below the line. -/
  | khmer
  deriving DecidableEq

/-- What the character at hand can melt with. -/
inductive Behind where
  /-- Nothing. -/
  | nothing
  | lineFeed
  | skinTone
  /-- Half of a flag. -/
  | flag
  /-- Two or more halves of flags. -/
  | flags
  | emoji
  /-- An emoji with a joiner in front, as in all that follow here. -/
  | joinedEmoji
  /-- A keycap mark. -/
  | joinedKeycap
  /-- Half of a flag. -/
  | joinedFlag
  /-- Two or more halves of flags, of an even number or not. -/
  | joinedFlags (even : Bool)
  /-- The end of a tag, with so many letters. -/
  | joinedTagLetters (count : Nat)
  /-- The end of a tag, with so many digits. -/
  | joinedTagDigits (count : Nat)
  /-- The Kirat Rai vowel e. -/
  | vowelE
  /-- The Kirat Rai vowel ai. -/
  | vowelAi
  /-- An Arabic alef. -/
  | alef
  /-- A letter, with a joiner in front or not. -/
  | letter (ligature : Ligature) (joined : Bool)
  deriving DecidableEq

/-- Characters that choose among the forms of the one in front. -/
inductive Selector where
  /-- The emoji form. -/
  | emoji
  /-- The text form. -/
  | text
  /-- The wide form of a quotation mark. -/
  | wide
  deriving DecidableEq

/-- The selector that a character is. -/
def Selector.ofChar? (c : Char) : Option Selector :=
  if c.toNat == 0xFE0F then some .emoji
  else if c.toNat == 0xFE0E then some .text
  else if c.toNat == 0xFE01 then some .wide
  else none

/-- What stands behind a character, and the selector between them if there is
one. -/
structure Context where
  /-- What stands behind. -/
  behind : Behind
  selector : Option Selector
  deriving DecidableEq

/-- What stands behind, without a selector. -/
def Context.plain (behind : Behind) : Context :=
  ⟨behind, none⟩

/-- Whether a selector leaves standing what is behind it: letters may still melt
with what is in front of it, and so may a joined emoji if the emoji form is
chosen. -/
def Behind.survives (behind : Behind) (selector : Selector) : Bool :=
  match behind, selector with
  | .alef, _ => true
  | .letter _ _, _ => true
  | .joinedEmoji, .emoji => true
  | .joinedKeycap, .emoji => true
  | _, _ => false

/-- A selector in front of what is behind. -/
def Behind.select (behind : Behind) (selector : Selector) : Context :=
  ⟨if behind.survives selector then behind else .nothing, some selector⟩

/-- What is left behind a character that a selector says nothing about. -/
def Behind.unselected : Behind → Behind
  | .alef => .alef
  | .letter ligature joined => .letter ligature joined
  | _ => .nothing

/-! ## Melting -/

/-- What a character that melts with nothing is to the one in front. -/
def Behind.ofChar (c : Char) : Behind :=
  let n := c.toNat
  if n == 0x5DC then .letter .lamed false
  else if isAlef c then .alef
  else if hasSubscript c then .letter .khmer false
  else if n == 0x1A10 then .letter .ya false
  else if isTifinaghConsonant c then .letter .consonant false
  else if n == 0xA4FC || n == 0xA4FD then .letter .tone false
  else if n == 0x10C03 then .letter .orkhonI false
  else if n == 0x16D67 then .vowelE
  else if n == 0x16D68 then .vowelAi
  else if isFlagHalf c then .flag
  else if isSkinTone c then .skinTone
  else if isEmoji c then .emoji
  else .nothing

/-- The columns that a letter adds when it melts with the one behind, and what
the two are to the next. -/
def Ligature.meet (ligature : Ligature) (joined : Bool) (c : Char) : Option (Int × Behind) :=
  let n := c.toNat
  match ligature with
  | .lamed => if joined && n == 0x5D0 then some (0, .nothing) else none
  | .ya => if joined && n == 0x1A17 then some (0, .letter .vowelledYa true) else none
  | .vowelledYa => if n == 0x1A15 then some (0, .nothing) else none
  | .consonant =>
      if n == 0x2D7F then some (1, .letter .joinedConsonant true)
      else if joined && isTifinaghConsonant c then some (0, .nothing)
      else none
  | .joinedConsonant => if isTifinaghConsonant c then some (-1, .nothing) else none
  | .tone => if 0xA4F8 ≤ n && n ≤ 0xA4FB then some (0, .nothing) else none
  | .orkhonI => if joined && n == 0x10C32 then some (0, .nothing) else none
  | .khmer => if n == 0x17D2 then some (-1, .nothing) else none

/-- The columns that a character adds when it melts with what is behind, and what
the two are to the next. -/
def Behind.meet (behind : Behind) (c : Char) : Option (Int × Behind) :=
  let n := c.toNat
  match behind with
  | .nothing => none
  | .lineFeed => none
  | .skinTone =>
      if CodePoints.mem WidthTable.emojiModifierBase c then some (0, .emoji)
      else if isJoiner c then some (0, .joinedEmoji)
      else none
  | .flag => if isFlagHalf c then some (1, .flags) else none
  | .flags =>
      if isFlagHalf c then some (1, .flags)
      else if isJoiner c then some (0, .joinedEmoji)
      else none
  | .emoji => if isJoiner c then some (0, .joinedEmoji) else none
  | .joinedEmoji =>
      if n == 0x20E3 then some (0, .joinedKeycap)
      else if isFlagHalf c then some (1, .joinedFlag)
      else if isSkinTone c then some (0, .skinTone)
      else if n == 0xE007F then some (0, .joinedTagLetters 0)
      else if isEmoji c then some (0, .emoji)
      else none
  | .joinedKeycap => none
  | .joinedFlag => if isFlagHalf c then some (-1, .joinedFlags true) else none
  | .joinedFlags even =>
      if isFlagHalf c then some (if even then 3 else -1, .joinedFlags (!even))
      else if isJoiner c then some (0, .joinedEmoji)
      else none
  | .joinedTagLetters count =>
      if isTagLetter c && count < 6 then some (0, .joinedTagLetters (count + 1))
      else if isTagDigit c && count ≤ 4 then some (0, .joinedTagDigits 1)
      else if n == 0x1F3F4 && 3 ≤ count then some (0, .emoji)
      else none
  | .joinedTagDigits count =>
      if isTagDigit c && count < 3 then some (0, .joinedTagDigits (count + 1))
      else if n == 0x1F3F4 && count == 3 then some (0, .emoji)
      else none
  | .vowelE =>
      if n == 0x16D63 || n == 0x16D69 then some (0, .nothing)
      else if n == 0x16D67 then some (0, .vowelAi)
      else if n == 0x16D68 then some (1, .vowelE)
      else none
  | .vowelAi => if n == 0x16D63 then some (0, .nothing) else none
  | .alef =>
      if isLam c then some (0, .nothing)
      else if isTransparent c then some (0, .alef)
      else none
  | .letter ligature joined =>
      if isJoiner c then some (0, .letter ligature true)
      else if isIgnoredMark c then some (0, .letter ligature joined)
      else ligature.meet joined c

/-- The columns that a character adds in front of what is behind when no selector
changes it, and what it leaves to the next. -/
def addedWidth (c : Char) (behind : Behind) : Int × Context :=
  if c = '\n' then (1, .plain .lineFeed)
  else if c = '\r' then (if behind = .lineFeed then 0 else 1, .plain .nothing)
  else if c.toNat ≤ 0xA0 then (1, .plain .nothing)
  else
    match Selector.ofChar? c with
    | some selector => (0, behind.select selector)
    | none =>
        match behind.meet c with
        | some (columns, behind) => (columns, .plain behind)
        | none => (charWidth c, .plain (.ofChar c))

/-- The columns of a character in the form that a selector behind it chooses, and
what it is to the next, if the selector says anything about it. -/
def Selector.meet (selector : Selector) (behind : Behind) (c : Char) : Option (Int × Behind) :=
  let hasForms := CodePoints.mem WidthTable.presentationBase c
  match selector with
  | .emoji =>
      if hasForms then
        some (if behind = .joinedEmoji || behind = .joinedKeycap then 0 else 2, .emoji)
      else none
  | .text =>
      if hasForms && isEmoji c && !(0x1F200 ≤ c.toNat && c.toNat ≤ 0x1F2FF) then
        some (1, .nothing)
      else none
  | .wide => if isCurvedQuote c then some (2, .nothing) else none

/-- The columns that a character adds in a context, and the context that it
leaves to the one in front. -/
def measureChar (c : Char) (context : Context) : Int × Context :=
  match context.selector with
  | none => addedWidth c context.behind
  | some selector =>
      match selector.meet context.behind c with
      | some (columns, behind) => (columns, .plain behind)
      | none => addedWidth c context.behind.unselected

/-- The columns of characters and the context that they leave, with one more
character in front. -/
def measureNext (c : Char) (measured : Int × Context) : Int × Context :=
  let (added, context) := measureChar c measured.2
  (measured.1 + added, context)

/-- The columns of characters, and the context that they leave to one in front. -/
def measure (chars : List Char) : Int × Context :=
  chars.foldr measureNext (0, .plain .nothing)

/-- The number of columns that a text takes on a terminal. -/
def width (text : String) : Nat :=
  (measure text.toList).1.toNat

end Commissioner.Text
