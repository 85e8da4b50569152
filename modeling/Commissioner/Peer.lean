import Commissioner.Fault

/-!
# Devices and the ways to reach them

A search finds devices, each with a name, an address on its kind of link and,
where the link reports one, a signal strength. Searching for devices and opening
links fail for the reasons given here.
-/

set_option autoImplicit false

namespace Commissioner

/-- A device found by a search. -/
structure Peer where
  /-- The name that it advertises. -/
  name : String
  /-- Where its kind of link finds it. -/
  address : String
  /-- The signal strength when it was found. -/
  rssi : Option Int
  deriving DecidableEq, Inhabited

namespace Peer

/-- A device as it is shown to the user. -/
def text (peer : Peer) : String :=
  let strength := match peer.rssi with
    | some rssi => " rssi=" ++ toString rssi
    | none => ""
  peer.name ++ " (" ++ peer.address ++ ")" ++ strength

end Peer

/-- Why no device was found or no link opened. -/
inductive TransportError where
  /-- There is no adapter to use. -/
  | noAdapter (reason : String)
  /-- The search could not be completed. -/
  | discovery (reason : String)
  /-- A link could not be opened. -/
  | connect (address reason : String)
  /-- The address means nothing on this kind of link. -/
  | invalidAddress (address : String)
  /-- A fault of the link. -/
  | fault (fault : Fault)
  deriving DecidableEq

/-- The reason in words. -/
def TransportError.message : TransportError → String
  | .noAdapter reason => "no transport adapter available: " ++ reason
  | .discovery reason => "discovery failed: " ++ reason
  | .connect address reason => "failed to connect to " ++ address ++ ": " ++ reason
  | .invalidAddress address => "invalid peer address '" ++ address ++ "'"
  | .fault cause => "transport I/O error: " ++ cause.message

end Commissioner
