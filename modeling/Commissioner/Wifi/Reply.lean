import Commissioner.Text.Utf8
import Commissioner.Tlv.Basic

/-!
# What an answer says

A border router answers the Wi-Fi commands with texts. A text that contains
`RESP_NOT_SUPP`, `RESP_FAIL` or `RESP_OK` says how the command went; of several
the first of these three counts. Any other text is data.
-/

set_option autoImplicit false

namespace Commissioner

/-- The text of a record, with U+FFFD where it is not UTF-8. -/
def Tlv.text (record : Tlv) : String :=
  Utf8.lossyText record.value

/-- How an answer is classified. -/
inductive Reply where
  | notSupported
  | failed
  | ok
  | data
  deriving DecidableEq

namespace Reply

/-- The marks, in the order in which they count. -/
def notSupportedMark : String := "RESP_NOT_SUPP"

def failedMark : String := "RESP_FAIL"

/-- The mark of a success. -/
def okMark : String := "RESP_OK"

/-- Whether a list occurs within another as one run. -/
def occurs {α : Type} [BEq α] (part : List α) : List α → Bool
  | [] => part.isEmpty
  | x :: rest => part.isPrefixOf (x :: rest) || occurs part rest

/-- Classifies characters. -/
def ofChars (chars : List Char) : Reply :=
  if occurs notSupportedMark.toList chars then .notSupported
  else if occurs failedMark.toList chars then .failed
  else if occurs okMark.toList chars then .ok
  else .data

/-- Classifies a text. -/
def ofText (text : String) : Reply :=
  ofChars text.toList

/-- Classifies the text of a record. -/
def ofRecord (record : Tlv) : Reply :=
  ofText record.text

end Reply

end Commissioner
