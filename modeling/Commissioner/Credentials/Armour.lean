import Commissioner.Credentials.Base64
import Commissioner.Text.Quoted
import Commissioner.Text.Utf8

/-!
# Armoured sections

Certificates and keys come as texts with sections between a line that begins
with `-----BEGIN` and one that begins with `-----END`, both with the label of
the section, and base 64 in between. Lines end with a line feed or a carriage
return. What stands outside sections is skipped, and so are sections with a
label that has no meaning here. A section that is begun within another takes its
place, and keeps the lines read so far.
-/

set_option autoImplicit false

namespace Commissioner.Armour

/-! ## Labels -/

/-- The sections that have a meaning. -/
inductive Kind where
  | certificate
  | publicKey
  | rsaKey
  | privateKey
  | ecKey
  | revocations
  | request
  | helloConfig
  deriving DecidableEq

/-- Every kind of section with its label. -/
def labels : List (Kind × String) :=
  [(.certificate, "CERTIFICATE"), (.publicKey, "PUBLIC KEY"), (.rsaKey, "RSA PRIVATE KEY"),
    (.privateKey, "PRIVATE KEY"), (.ecKey, "EC PRIVATE KEY"), (.revocations, "X509 CRL"),
    (.request, "CERTIFICATE REQUEST"), (.helloConfig, "ECHCONFIG")]

/-- The kind of section with a label. -/
def kind? (label : Octets) : Option Kind :=
  (labels.find? fun entry => Octets.ofText entry.2 == label).map Prod.fst

structure Section where
  kind : Kind
  /-- The octets in it. -/
  content : Octets
  deriving DecidableEq

/-- Why the sections of a text cannot be read. -/
inductive Flaw where
  /-- The line that begins a section does not end as it should. -/
  | illegalStart (line : Octets)
  /-- The text ends inside the section with this label. -/
  | missingEnd (label : Octets)
  /-- A section is not base 64. -/
  | base64 (flaw : Base64.Flaw)
  deriving DecidableEq

/-- The flaw in words. -/
def Flaw.message : Flaw → String
  | .illegalStart line => "illegal section start: " ++ Quoted.text (Utf8.lossyText line)
  | .missingEnd label => "section end " ++ Quoted.text (Utf8.lossyText label) ++ " missing"
  | .base64 flaw => flaw.message

/-! ## Lines -/

/-- The lines of a text, each with its end. `line` holds the line at hand, last
octet first. -/
def linesFrom (line : Octets) : Octets → List Octets
  | [] => if line.isEmpty then [] else [line.reverse]
  | octet :: rest =>
      if octet = 0x0A || octet = 0x0D then (octet :: line).reverse :: linesFrom [] rest
      else linesFrom (octet :: line) rest

/-- The lines of a text, each with its end. -/
def lines (text : Octets) : List Octets :=
  linesFrom [] text

/-- The octets behind some that a run begins with. -/
def behind? (start octets : Octets) : Option Octets :=
  if start.isPrefixOf octets then some (octets.drop start.length) else none

/-- The dashes at the end of a line given from its end, with line ends and blanks
between them, and what is left in front of the first dash. -/
def trailer (dashes : Nat) (left : Octets) : Octets → Nat × Octets
  | [] => (dashes, left)
  | octet :: rest =>
      if octet = 0x2D then trailer (dashes + 1) rest rest
      else if octet = 0x0A || octet = 0x0D || octet = 0x20 then trailer dashes left rest
      else (dashes, left)

/-- The label of a line that begins a section: none if the line begins none, an
error if it does not end in five dashes. -/
def beginning (line : Octets) : Except Flaw (Option Octets) :=
  match behind? (Octets.ofText "-----BEGIN ") line with
  | none => .ok none
  | some _ =>
      match trailer 0 line.reverse line.reverse with
      | (5, left) => .ok (some (left.reverse.drop 11))
      | _ => .error (.illegalStart line)

/-- Whether a line ends the section with a label. -/
def isEnd (label line : Octets) : Bool :=
  match behind? (Octets.ofText "-----END ") line with
  | none => false
  | some rest =>
      match behind? label rest with
      | none => false
      | some rest => (Octets.ofText "-----").isPrefixOf rest

/-! ## Sections -/

/-- The sections among lines, where `opened` is the label of the section at hand
and `body` holds what was read of it. The sections end at the first flaw. -/
def sectionsFrom (opened : Option Octets) (body : Octets) :
    List Octets → List (Except Flaw Section)
  | [] =>
      match opened with
      | none => []
      | some label => [.error (.missingEnd label)]
  | line :: rest =>
      match beginning line with
      | .error flaw => [.error flaw]
      | .ok (some label) => sectionsFrom (some label) body rest
      | .ok none =>
          match opened with
          | none => sectionsFrom none body rest
          | some label =>
              if isEnd label line then
                match kind? label with
                | none => sectionsFrom none [] rest
                | some kind =>
                    match Base64.decode body with
                    | .error flaw => [.error (.base64 flaw)]
                    | .ok content => .ok ⟨kind, content⟩ :: sectionsFrom none [] rest
              else sectionsFrom opened (body ++ line) rest

/-- The sections of a text, up to the first flaw. -/
def sections (text : Octets) : List (Except Flaw Section) :=
  sectionsFrom none [] (lines text)

/-! ## Certificates and keys -/

def certificatesAmong : List (Except Flaw Section) → Except Flaw (List Octets)
  | [] => .ok []
  | .error flaw :: _ => .error flaw
  | .ok found :: rest =>
      if found.kind = .certificate then (certificatesAmong rest).map (found.content :: ·)
      else certificatesAmong rest

def certificates (text : Octets) : Except Flaw (List Octets) :=
  certificatesAmong (sections text)

/-- The first key among sections. -/
def keyAmong : List (Except Flaw Section) → Except Flaw (Option Section)
  | [] => .ok none
  | .error flaw :: _ => .error flaw
  | .ok found :: rest =>
      if found.kind = .rsaKey ∨ found.kind = .privateKey ∨ found.kind = .ecKey then
        .ok (some found)
      else keyAmong rest

/-- The first key of a text. -/
def key (text : Octets) : Except Flaw (Option Section) :=
  keyAmong (sections text)

end Commissioner.Armour
