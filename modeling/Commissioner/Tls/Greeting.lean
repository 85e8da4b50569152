import Commissioner.Tls.KeyShare
import Commissioner.Tls.ServerName
import Commissioner.Tls.Suite

/-!
# The greeting of the client

The client speaks first. It offers both versions, its suites, a share of one group
and some extensions, and tells the name that it asks for if that is a host name.
What it sends is random in part, so only the number of its octets is told here.
-/

set_option autoImplicit false

namespace Commissioner.Tls.Greeting

/-- The number of octets of a greeting that tells no name. -/
def plainSize : Nat := 218

/-- The number of octets around a host name. -/
def nameOverhead : Nat := 9

/-- The number of octets of a greeting, where a dot at the end of the name is left
out. -/
def size : ServerName → Nat
  | .host name => plainSize + nameOverhead + (ServerName.withoutDot name).length
  | .address _ _ => plainSize

/-- The numbers of the extensions that every greeting has. -/
def extensions : List Nat :=
  [Extension.statusRequest, Extension.groups, Extension.pointFormats, Extension.signatures,
    Extension.extendedSecret, Extension.sessionTicket, Extension.version,
    Extension.sharedKeyModes, Extension.keyShare]

/-- Whether the greeting for a name has an extension with a number. -/
def offers (name : ServerName) (number : Nat) : Bool :=
  extensions.contains number ||
    match name with
    | .host _ => number = Extension.serverName
    | .address _ _ => false

/-- The number of octets with which the client changes its ciphers, once the newer
version is chosen. -/
def changeSize : Nat := 6

end Commissioner.Tls.Greeting
