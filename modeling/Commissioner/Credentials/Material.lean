import Commissioner.Credentials.Armour
import Commissioner.Credentials.Certificate
import Commissioner.Credentials.PrivateKey

/-!
# Credentials

Credentials are three texts: the certificates that the client shows, the private
key that belongs to the first of them, and the certificates of the authorities
that it trusts. They can be used when every part can be read and the key is the
one that the certificate names.
-/

set_option autoImplicit false

namespace Commissioner

/-- The texts of credentials. -/
structure Material where
  /-- The certificates that the client shows, its own first. -/
  chain : Octets
  /-- The private key. -/
  key : Octets
  /-- The certificates of the authorities. -/
  authorities : Octets

namespace Material

/-- Why credentials cannot be used. -/
inductive Flaw where
  /-- The text of the client's certificates cannot be read. -/
  | chain (flaw : Armour.Flaw)
  /-- The text of the client's certificates holds none. -/
  | noChain
  /-- The text of the key cannot be read. -/
  | key (flaw : Armour.Flaw)
  /-- The text of the key holds none. -/
  | noKey
  /-- The text of the authorities' certificates cannot be read. -/
  | authorities (flaw : Armour.Flaw)
  /-- The text of the authorities' certificates holds none. -/
  | noAuthorities
  /-- The certificate of an authority cannot be used. -/
  | authority (flaw : Certificate.Flaw)
  /-- The key is of no known form. -/
  | unknownKey
  /-- The client's own certificate cannot be used. -/
  | certificate (flaw : Certificate.Flaw)
  /-- The key is not the one that the certificate names. -/
  | otherKey
  deriving DecidableEq

/-- The flaw in words. -/
def Flaw.message : Flaw → String
  | .chain flaw => "certificate chain: " ++ flaw.message
  | .noChain => "certificate chain: no certificates found"
  | .key flaw => "private key: " ++ flaw.message
  | .noKey => "private key: no key found"
  | .authorities flaw => "CA certificate: " ++ flaw.message
  | .noAuthorities => "CA certificate: no certificates found"
  | .authority flaw => "CA certificate: " ++ flaw.message
  | .unknownKey =>
      "client certificate: unexpected error: failed to parse private key as RSA, ECDSA, or EdDSA"
  | .certificate flaw => "client certificate: " ++ flaw.message
  | .otherKey => "client certificate: keys may not be consistent: KeyMismatch"

/-- Reads the certificates that the client shows, of which there is at least its
own. -/
def readChain (material : Material) : Except Flaw (Octets × List Octets) :=
  match Armour.certificates material.chain with
  | .error flaw => .error (.chain flaw)
  | .ok [] => .error .noChain
  | .ok (own :: rest) => .ok (own, rest)

def readKey (material : Material) : Except Flaw Armour.Section :=
  match Armour.key material.key with
  | .error flaw => .error (.key flaw)
  | .ok none => .error .noKey
  | .ok (some key) => .ok key

/-- Reads the certificates of the authorities. -/
def readAuthorities (material : Material) : Except Flaw (List Octets) :=
  match Armour.certificates material.authorities with
  | .error flaw => .error (.authorities flaw)
  | .ok [] => .error .noAuthorities
  | .ok authorities => .ok authorities

/-- The authorities that certificates describe, read in order. -/
def authoritiesOf : List Octets → Except Flaw (List Authority)
  | [] => .ok []
  | octets :: rest =>
      match Certificate.authority octets with
      | .error flaw => .error (.authority flaw)
      | .ok authority =>
          match authoritiesOf rest with
          | .error flaw => .error flaw
          | .ok others => .ok (authority :: others)

/-- Checks that a key is the one that a certificate names. -/
def checkPair (own : Octets) (key : Armour.Section) : Except Flaw Unit :=
  match PrivateKey.ofSection? key with
  | none => .error .unknownKey
  | some key =>
      match Certificate.ofOctets .subject own with
      | .error flaw => .error (.certificate flaw)
      | .ok certificate =>
          if key.publicKey = certificate.publicKey then .ok () else .error .otherKey

/-- Checks whether credentials can be used, and gives the authorities that they
trust. -/
def check (material : Material) : Except Flaw (List Authority) := do
  let (own, _) ← material.readChain
  let key ← material.readKey
  let trusted ← authoritiesOf (← material.readAuthorities)
  checkPair own key
  return trusted

end Material

end Commissioner
