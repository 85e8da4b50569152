import Commissioner.Credentials.Certificate
import Commissioner.Credentials.Signature
import Commissioner.Tls.ServerName

/-!
# Trust in certificates

The far end shows its own certificate and others that may help. Its own is trusted
when a path leads from it to an authority: each certificate on the path names the
holder of the next one, and is signed with that one's key. Of all that speaks
against the paths that were tried, the most telling is reported. The present moment
is no part of this library, so of the time in which a certificate holds only the
form and the order are checked.
-/

set_option autoImplicit false

namespace Commissioner.Tls

namespace Trust

/-! ## Flaws -/

/-- Why a certificate is not trusted. -/
inductive Flaw where
  /-- It cannot be read. -/
  | unreadable (flaw : Certificate.Flaw)
  /-- It ends before it begins. -/
  | neverValid
  /-- It is the certificate of an authority, and is shown as somebody's own. -/
  | authorityAsOwn
  /-- It is nobody's to vouch with. -/
  | ownAsAuthority
  /-- The path is longer than an authority on it allows. -/
  | pathLength
  /-- Its key is for other purposes. -/
  | purpose (present : List Octets)
  /-- It was not signed by whom it names. -/
  | signature
  /-- It was signed in a way that is not known here. -/
  | scheme
  /-- It was signed in a way that is not one of keys of this kind. -/
  | otherKey (algorithm kind : Octets)
  /-- No path leads to an authority. -/
  | unknownIssuer
  /-- It does not bear the name asked for, but these. -/
  | name (asked : String) (borne : List String)
  deriving DecidableEq

namespace Flaw

/-- How telling a flaw is. -/
def rank : Flaw → Nat
  | name _ _ => 280
  | signature => 260
  | unreadable .signatureAlgorithm => 250
  | purpose _ => 240
  | pathLength => 220
  | authorityAsOwn => 210
  | ownAsAuthority => 210
  | neverValid => 190
  | otherKey _ _ => 150
  | scheme => 140
  | unreadable .criticalExtension => 130
  | unreadable .version => 130
  | unreadable .repeatedExtension => 30
  | unreadable .malformed => 10
  | unknownIssuer => 0

/-- The more telling of two flaws, and the first one if they are alike. -/
def worse (first second : Flaw) : Flaw :=
  if second.rank ≤ first.rank then first else second

/-- The numbers of an identifier: each is spelled to the base 128, with the high bit
set in all octets but its last, and the first two are told by one. -/
def identifierNumbers (octets : Octets) : List Nat :=
  let (numbers, _) := octets.foldl
    (fun (state : List Nat × Nat) octet =>
      let number := state.2 * 128 + octet.toNat % 128
      if octet.toNat < 128 then (number :: state.1, 0) else (state.1, number)) ([], 0)
  match numbers.reverse with
  | [] => []
  | first :: rest =>
      let upper := min (first / 40) 2
      upper :: (first - 40 * upper) :: rest

/-- A purpose in words. -/
def purposeText (octets : Octets) : String :=
  if octets = [0x2B, 0x06, 0x01, 0x05, 0x05, 0x07, 0x03, 0x01] then "server authentication"
  else if octets = [0x2B, 0x06, 0x01, 0x05, 0x05, 0x07, 0x03, 0x02] then "client authentication"
  else ".".intercalate ((identifierNumbers octets).map toString)

/-- Names that are borne in words. -/
def bearing : List String → String
  | [] => "is not valid for any names (according to its subjectAltName extension)"
  | [one] => "is only valid for " ++ one
  | many => "is only valid for " ++ ", ".intercalate many.dropLast ++ " or " ++ many.getLastD ""

/-- Octets in words. -/
def listing (octets : Octets) : String :=
  toString (octets.map (·.toNat))

/-- The flaw in words. -/
def message (flaw : Flaw) : String :=
  match flaw with
  | unreadable flaw => flaw.message
  | other =>
      "invalid peer certificate: " ++
        match other with
        | unreadable _ => ""
        | neverValid => "Expired"
        | authorityAsOwn => "Other(OtherError(CaUsedAsEndEntity))"
        | ownAsAuthority => "Other(OtherError(EndEntityUsedAsCa))"
        | pathLength => "Other(OtherError(PathLenConstraintViolated))"
        | purpose present =>
            "certificate does not allow extended key usage for server authentication, allows "
              ++ ", ".intercalate (present.map purposeText)
        | signature => "BadSignature"
        | scheme => "UnsupportedSignatureAlgorithm"
        | otherKey algorithm kind =>
            "UnsupportedSignatureAlgorithmForPublicKeyContext \x7b signature_algorithm_id: "
              ++ listing algorithm ++ ", public_key_algorithm_id: " ++ listing kind ++ " \x7d"
        | unknownIssuer => "UnknownIssuer"
        | name asked borne =>
            "certificate not valid for name \"" ++ asked ++ "\"; certificate " ++ bearing borne

end Flaw

/-! ## What a certificate says of itself -/

open Element Element.Reader

/-- A reader of a part of a certificate. -/
abbrev Part (α : Type) : Type :=
  Reader Flaw α

/-- The flaw of a certificate that is not made of elements as it should be. -/
def malformed : Flaw :=
  .unreadable .malformed

/-- The tag of a moment with a year of two digits. -/
def shortMoment : UInt8 := 0x17

/-- The tag of a moment with a year of four digits. -/
def longMoment : UInt8 := 0x18

/-- The number that two digits spell, if it lies between bounds. -/
def pair (low high : Nat) : Part Nat := do
  let tens ← octet malformed
  let ones ← octet malformed
  if tens < 0x30 ∨ 0x39 < tens ∨ ones < 0x30 ∨ 0x39 < ones then throw malformed
  let number := (tens.toNat - 0x30) * 10 + (ones.toNat - 0x30)
  if number < low ∨ high < number then throw malformed
  return number

/-- The number of days of a month. -/
def daysIn (year month : Nat) : Nat :=
  if month = 2 then
    if (year % 4 = 0 ∧ year % 100 ≠ 0) ∨ year % 400 = 0 then 29 else 28
  else if month ∈ [4, 6, 9, 11] then 30
  else 31

/-- Reads the digits of a moment behind those of its year. The number of a later
moment is larger. -/
def momentIn (year : Nat) : Part Nat := do
  if year < 1970 then throw malformed
  let month ← pair 1 12
  let day ← pair 1 (daysIn year month)
  let hour ← pair 0 23
  let minute ← pair 0 59
  let second ← pair 0 59
  if (← octet malformed) ≠ 0x5A then throw malformed
  return ((((year * 12 + month) * 31 + day) * 24 + hour) * 60 + minute) * 60 + second

/-- Reads a moment. -/
def moment : Part Nat := do
  if ← isNext shortMoment then
    within shortMoment malformed do
      let year ← pair 0 99
      momentIn (if 50 ≤ year then 1900 + year else 2000 + year)
  else
    within longMoment malformed do
      let century ← pair 0 99
      momentIn (century * 100 + (← pair 0 99))

/-- Checks that a certificate does not end before it begins. -/
def checkValidity (certificate : Certificate) : Except Flaw Unit := do
  let (start, finish) ← whole (do return (← moment, ← moment)) malformed certificate.validity
  if finish < start then throw .neverValid

/-- Whether the holder of a certificate may vouch for others, and for how many in a
row besides the last one. -/
def mayVouch (certificate : Certificate) : Except Flaw (Bool × Option Nat) :=
  match certificate.extensions.lookup Certificate.constraints with
  | none => .ok (false, none)
  | some content =>
      whole (do
        let isAuthority ←
          if ← isNext boolean then
            within boolean malformed do
              match ← octet malformed with
              | 0xFF => return true
              | 0x00 => return false
              | _ => throw malformed
          else pure false
        if ← isAtEnd then return (isAuthority, none)
        return (isAuthority, some (← smallNumber malformed).toNat)) malformed content

/-- Checks that a certificate stands where it may on a path, with so many vouching
ones below it, or none at all when it is somebody's own. -/
def checkPlace (certificate : Certificate) (below : Option Nat) : Except Flaw Unit := do
  match ← mayVouch certificate, below with
  | (true, _), none => throw .authorityAsOwn
  | (false, _), some _ => throw .ownAsAuthority
  | (true, some limit), some count => if limit < count then throw .pathLength
  | _, _ => return ()

/-- The purpose of showing who a server is. -/
def showing : Octets :=
  [0x2B, 0x06, 0x01, 0x05, 0x05, 0x07, 0x03, 0x01]

/-- Looks for the purpose of showing who a server is among so many purposes, behind
those that are others. -/
def findPurpose : Nat → List Octets → Part Unit
  | 0, _ => throw malformed
  | count + 1, others => do
      if ← isAtEnd then
        if others.isEmpty then return () else throw (.purpose others.reverse)
      let purpose ← expect identifier malformed
      if purpose = showing then
        let _rest ← remainder
        return ()
      findPurpose count (purpose :: others)

/-- Checks that the key of a certificate may serve to show who a server is. -/
def checkPurpose (certificate : Certificate) : Except Flaw Unit :=
  match certificate.extensions.lookup Certificate.purposes with
  | none => .ok ()
  | some content => whole (findPurpose (content.length + 1) []) malformed content

/-- Checks what a certificate says of itself. -/
def checkAlone (certificate : Certificate) (below : Option Nat) : Except Flaw Unit := do
  checkValidity certificate
  checkPlace certificate below
  checkPurpose certificate

/-! ## Paths -/

/-- Checks that a certificate was signed with a key. -/
def checkSigned (key : Octets) (certificate : Certificate) : Except Flaw Unit :=
  let signed := Element.encode ⟨group, certificate.signed⟩
  match Signature.check key certificate.algorithm signed certificate.signature with
  | .good => .ok ()
  | .bad => .error .signature
  | .malformed => .error malformed
  | .unknownScheme => .error .scheme
  | .otherKey kind => .error (.otherKey certificate.algorithm kind)

/-- Checks that the certificates of a path were signed one by another, the first one
with a key of its own. -/
def checkPath (key : Octets) : List Certificate → Except Flaw Unit
  | [] => .ok ()
  | certificate :: rest =>
      match checkSigned key certificate with
      | .error flaw => .error flaw
      | .ok () => checkPath certificate.publicKey rest

/-- Whether any of some ways passes. If none does, the most telling flaw is that of
one of them, or this one. -/
def anyOf {α : Type} (check : α → Except Flaw Unit) (flaw : Flaw) : List α → Except Flaw Unit
  | [] => .error flaw
  | way :: rest =>
      match check way with
      | .ok () => .ok ()
      | .error other => anyOf check (flaw.worse other) rest

/-- The number of certificates that a path takes at most, besides the one at its
lower end. -/
def pathLimit : Nat := 6

/-- Looks for an authority above a path that grows by at most so many certificates,
of which the upper one comes first. -/
def climb (authorities : List Authority) (others : List Octets) :
    Nat → Certificate → List Certificate → Except Flaw Unit
  | steps, top, below =>
      match checkAlone top (if below.isEmpty then none else some (below.length - 1)) with
      | .error flaw => .error flaw
      | .ok () =>
          let toAuthority (authority : Authority) : Except Flaw Unit :=
            if authority.subject = top.issuer then checkPath authority.publicKey (top :: below)
            else .error .unknownIssuer
          match anyOf toAuthority .unknownIssuer authorities with
          | .ok () => .ok ()
          | .error flaw =>
              match steps with
              | 0 => .error flaw
              | steps + 1 =>
                  anyOf (fun octets =>
                    match Certificate.ofOctets .subject octets with
                    | .error flaw => .error (.unreadable flaw)
                    | .ok next =>
                        if next.subject ≠ top.issuer then .error .unknownIssuer
                        else if (top :: below).any fun other =>
                            other.publicKey = next.publicKey ∧ other.subject = next.subject then
                          .error .unknownIssuer
                        else climb authorities others steps next (top :: below)) flaw others

/-! ## Names -/

/-- A name that a certificate bears. -/
inductive BorneName where
  | host (name : Octets)
  /-- A directory entry. -/
  | directory
  /-- A numeric address. -/
  | address (octets : Octets)
  | resource (place : Octets)
  /-- A name of another kind. -/
  | other (kind : UInt8)
  deriving DecidableEq

namespace BorneName

/-- The name that an element tells. -/
def ofElement? (element : Element) : Option BorneName :=
  if element.tag = implicitPlace 2 then some (.host element.content)
  else if element.tag = place 4 then some .directory
  else if element.tag = implicitPlace 7 then some (.address element.content)
  else if element.tag = implicitPlace 6 then some (.resource element.content)
  else if element.tag ∈ [place 0, place 3, place 5] then some (.other (element.tag - 0xA0))
  else if element.tag ∈ [implicitPlace 1, implicitPlace 8] then some (.other (element.tag - 0x80))
  else none

/-- Octets as characters. -/
def characters (octets : Octets) : String :=
  String.ofList (octets.map fun octet => Char.ofNat octet.toNat)

/-- A name in words. -/
def title : BorneName → String
  | host name => "DnsName(\"" ++ characters name ++ "\")"
  | directory => "DirectoryName"
  | address octets => "IpAddress(" ++ ".".intercalate (octets.map (toString ·.toNat)) ++ ")"
  | resource place => "UniformResourceIdentifier(\"" ++ characters place ++ "\")"
  | other kind => "Unsupported(0x0" ++ toString kind.toNat ++ ")"

/-- The small letter of a letter. -/
def small (c : Char) : Char :=
  c.toLower

/-- Whether the name of a host that is borne stands for a host: it is the same but
for the case of letters, or its first label is a star and the others are the
same. -/
def isHost (borne : Octets) (name : List Char) : Bool :=
  let borne := (characters borne).toList.map small
  let name := name.map small
  borne == name ||
    match borne with
    | '*' :: '.' :: rest => !rest.isEmpty && (name.dropWhile (· ≠ '.')).drop 1 == rest
    | _ => false

/-- Whether a name that is borne stands for a name asked for. -/
def isFor (borne : BorneName) (name : ServerName) : Bool :=
  match borne, name with
  | host borne, .host name => isHost borne (ServerName.withoutDot name)
  | address borne, .address _ octets => borne == octets
  | _, _ => false

end BorneName

/-- Reads so many names, or all that are left if those are fewer. -/
def borneNames : Nat → Part (List BorneName)
  | 0 => return []
  | count + 1 => do
      if ← isAtEnd then return []
      let octets ← get
      match Element.read octets with
      | none => throw malformed
      | some (element, rest) =>
          match BorneName.ofElement? element with
          | none => throw malformed
          | some name =>
              set rest
              return name :: (← borneNames count)

/-- The names that a certificate bears. -/
def namesOf (certificate : Certificate) : Except Flaw (List BorneName) :=
  match certificate.extensions.lookup Certificate.otherNames with
  | none => .ok []
  | some content => whole (borneNames content.length) malformed content

/-- Checks that a certificate bears a name. -/
def checkName (certificate : Certificate) (name : ServerName) : Except Flaw Unit := do
  let names ← namesOf certificate
  if names.any (·.isFor name) then return ()
  throw (.name name.text (names.map (·.title)))

/-! ## The certificate of the far end -/

/-- Checks the certificate of the far end against the authorities and the name asked
for, and gives it if it is trusted. -/
def check (authorities : List Authority) (name : ServerName) (own : Octets)
    (others : List Octets) : Except Flaw Certificate :=
  match Certificate.ofOctets .subject own with
  | .error flaw => .error (.unreadable flaw)
  | .ok certificate => do
      climb authorities others pathLimit certificate []
      checkName certificate name
      return certificate

end Trust

end Commissioner.Tls
