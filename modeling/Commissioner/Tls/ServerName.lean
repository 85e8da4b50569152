import Commissioner.Credentials.Numbers
import Commissioner.Text.HostNumber

/-!
# Names that a certificate can bear

A device is asked for by a host name or by a numeric address. A host name has at
most 253 characters in labels of at most 63, made of letters, digits, hyphens
and underscores; no label is empty, begins or ends with a hyphen, and the last
one is not made of digits alone. One dot may stand at the end.
-/

set_option autoImplicit false

namespace Commissioner.Tls

/-- A name that a certificate can bear. -/
inductive ServerName where
  | host (name : String)
  /-- A numeric address, as it is written and in octets. -/
  | address (text : String) (octets : Octets)
  deriving DecidableEq

namespace ServerName

/-- Whether a character may stand in a label. -/
def isLabelChar (c : Char) : Bool :=
  c.isAlphanum || c = '_' || c = '-'

def isLabel (label : List Char) : Bool :=
  !label.isEmpty && label.length ≤ 63 && label.all isLabelChar
    && label.head? != some '-' && label.getLast? != some '-'

/-- Whether labels are those of a host name: the last one may be empty, for a dot
at the end, and the one before the end is not made of digits alone. -/
def areLabels : List (List Char) → Bool
  | [] => false
  | [label] => isLabel label && !label.all Char.isDigit
  | [label, []] => isLabel label && !label.all Char.isDigit
  | label :: rest => isLabel label && areLabels rest

def isHostName (chars : List Char) : Bool :=
  chars.length ≤ 253 && chars.all (fun c => c = '.' || isLabelChar c)
    && areLabels (Fields.split '.' chars)

/-- The name that a text spells: a host name, or else a numeric address. -/
def ofText? (text : String) : Option ServerName :=
  let chars := text.toList
  if isHostName chars then some (.host text)
  else
    match HostNumber.short? chars, HostNumber.long? chars with
    | some number, _ => some (.address text (Numbers.spell number 4))
    | none, some groups => some (.address text (groups.flatMap Octets.ofWord))
    | none, none => none

/-- The name as it is written. -/
def text : ServerName → String
  | host name => name
  | address text _ => text

/-- A host name without a dot at the end. -/
def withoutDot (name : String) : List Char :=
  let chars := name.toList
  if chars.getLast? = some '.' then chars.dropLast else chars

end ServerName

end Commissioner.Tls
