import Commissioner.Text.Blank
import Commissioner.Text.Fields
import Commissioner.Text.Lowercase
import Commissioner.Wifi.Reply

/-!
# Networks and the state of the station

A network is told as six fields between bars: number, name, channel, band,
signal strength and security. Further fields are ignored and fewer are an error.
The state of the station is told as one to three fields: the state itself, which
has to hold something besides blanks, and the name and signal strength of the
network. Fields are kept as they are, except that the state is trimmed.
-/

set_option autoImplicit false

namespace Commissioner

/-- Why a text tells no network and no state: too few fields. -/
structure FieldError where
  /-- How many are needed. -/
  expected : Nat
  /-- How many there are. -/
  found : Nat
  deriving DecidableEq

/-- The error in words. -/
def FieldError.message (error : FieldError) : String :=
  "expected at least " ++ toString error.expected ++ " '|' separated fields, found "
    ++ toString error.found

/-- The fields of a text between bars. -/
def barFields (text : String) : List String :=
  Fields.ofText '|' text

/-! ## Networks -/

/-- A network that the border router found. -/
structure Network where
  /-- The number that the border router gave it. -/
  id : String
  /-- The name. -/
  ssid : String
  channel : String
  band : String
  /-- The signal strength. -/
  rssi : String
  /-- The kind of security. -/
  security : String
  deriving DecidableEq, Inhabited

namespace Network

def read (text : String) : Except FieldError Network :=
  match barFields text with
  | id :: ssid :: channel :: band :: rssi :: security :: _ =>
      .ok ⟨id, ssid, channel, band, rssi, security⟩
  | fields => .error ⟨6, fields.length⟩

/-- The request that stores a network with its password. -/
def addRequest (network : Network) (password : String) : String :=
  "wifi_add " ++ network.ssid ++ " " ++ password ++ " " ++ network.security

end Network

/-! ## The state of the station -/

/-- The state of the station. -/
structure Station where
  /-- The state, in the words of the border router. -/
  state : String
  /-- The name of the network. -/
  ssid : Option String
  /-- The signal strength. -/
  rssi : Option String
  deriving DecidableEq, Inhabited

namespace Station

/-- Reads the text of a state. -/
def read (text : String) : Except FieldError Station :=
  let fields := barFields text
  let state := Text.trim (fields.getD 0 "")
  if state.isEmpty then .error ⟨1, 0⟩ else .ok ⟨state, fields[1]?, fields[2]?⟩

def isConnected (station : Station) : Bool :=
  station.state == "COMPLETED"

/-- The state as it is shown to the user. -/
def text (station : Station) : String :=
  if station.isConnected then
    "Wi-Fi connected to: \"" ++ station.ssid.getD "" ++ "\" [RSSI: " ++ station.rssi.getD "" ++ "]"
  else "Wi-Fi " ++ Text.lowercase station.state

end Station

end Commissioner
