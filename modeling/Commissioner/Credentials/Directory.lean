import Commissioner.Credentials.Files
import Commissioner.Credentials.Material
import Commissioner.Session.Basic

/-!
# Credentials in a directory

A directory holds the texts of credentials in three files, which are read in
order. Credentials that can be used carry out the handshake by TLS.
-/

set_option autoImplicit false

namespace Commissioner

namespace Material

/-- The file with the certificates that the client shows. -/
def chainFile : String := "commissioner_cert.pem"

/-- The file with the private key. -/
def keyFile : String := "commissioner_key.pem"

/-- The file with the certificates of the authorities. -/
def authoritiesFile : String := "ca_cert.pem"

/-- The files of credentials in the order in which they are read. -/
def fileNames : List String :=
  [chainFile, keyFile, authoritiesFile]

/-- Reads a file in a directory with the means at hand. -/
def readFile (read : String → Except FileFault Octets) (directory file : String) :
    Except SessionError Octets :=
  let path := FilePath.join directory file
  match read path with
  | .error fault => .error (.credentials (path ++ ": " ++ fault.message))
  | .ok content => .ok content

/-- The credentials in a directory. -/
def ofDirectory (read : String → Except FileFault Octets) (directory : String) :
    Except SessionError Material := do
  let chain ← readFile read directory chainFile
  let key ← readFile read directory keyFile
  let authorities ← readFile read directory authoritiesFile
  return ⟨chain, key, authorities⟩

/-- The handshake that credentials carry out. -/
def handshake (material : Material) : Except SessionError Handshake :=
  match material.check with
  | .error flaw => .error (.credentials flaw.message)
  | .ok trusted => .ok (.tls trusted)

/-- The handshake that the credentials in a directory carry out. -/
def loadDirectory (read : String → Except FileFault Octets) (directory : String) :
    Except SessionError Handshake := do
  (← ofDirectory read directory).handshake

/-- A handshake by TLS in words. -/
def handshakeText : String :=
  "TlsHandshaker \x7b .. \x7d"

end Material

end Commissioner
