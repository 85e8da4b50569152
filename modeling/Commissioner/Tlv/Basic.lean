import Commissioner.Octets

/-!
# Records

A record is a tag and a value. Nineteen tags have a meaning of their own and
carry a name; every other tag is kept as it is. A record whose tag is
`responseWithStatus` and whose value is one known octet carries a status.
-/

set_option autoImplicit false

namespace Commissioner

/-- One record: a tag and its value. -/
structure Tlv where
  /-- The tag, also when it has no name. -/
  tag : UInt8
  value : Octets
  deriving DecidableEq, Inhabited

/-! ## Tags that have a name -/

/-- The tags with a meaning of their own, in numeric order. -/
inductive TagName where
  | responseWithStatus
  | responseWithPayload
  | responseEvent
  | getNetworkName
  | disconnect
  | ping
  | getDeviceId
  | getExtPanId
  | getProvisioningUrl
  | presentPskdHash
  | presentPskcHash
  | presentInstallCodeHash
  | requestRandomNumChallenge
  | requestPskdHash
  | activeDataset
  | threadStart
  | threadStop
  | decommission
  | application
  deriving DecidableEq

namespace TagName

/-- Every named tag, in numeric order. -/
def all : List TagName :=
  [responseWithStatus, responseWithPayload, responseEvent, getNetworkName, disconnect, ping,
    getDeviceId, getExtPanId, getProvisioningUrl, presentPskdHash, presentPskcHash,
    presentInstallCodeHash, requestRandomNumChallenge, requestPskdHash, activeDataset,
    threadStart, threadStop, decommission, application]

/-- The octet that stands for a named tag. -/
def octet : TagName → UInt8
  | responseWithStatus => 0x01
  | responseWithPayload => 0x02
  | responseEvent => 0x03
  | getNetworkName => 0x08
  | disconnect => 0x09
  | ping => 0x0A
  | getDeviceId => 0x0B
  | getExtPanId => 0x0C
  | getProvisioningUrl => 0x0D
  | presentPskdHash => 0x10
  | presentPskcHash => 0x11
  | presentInstallCodeHash => 0x12
  | requestRandomNumChallenge => 0x13
  | requestPskdHash => 0x14
  | activeDataset => 0x20
  | threadStart => 0x27
  | threadStop => 0x28
  | decommission => 0x60
  | application => 0x82

/-- The name of a tag as device logs write it. -/
def label : TagName → String
  | responseWithStatus => "RESPONSE_W_STATUS"
  | responseWithPayload => "RESPONSE_W_PAYLOAD"
  | responseEvent => "RESPONSE_EVENT"
  | getNetworkName => "GET_NETWORK_NAME"
  | disconnect => "DISCONNECT"
  | ping => "PING"
  | getDeviceId => "GET_DEVICE_ID"
  | getExtPanId => "GET_EXT_PAN_ID"
  | getProvisioningUrl => "GET_PROVISIONING_URL"
  | presentPskdHash => "PRESENT_PSKD_HASH"
  | presentPskcHash => "PRESENT_PSKC_HASH"
  | presentInstallCodeHash => "PRESENT_INSTALL_CODE_HASH"
  | requestRandomNumChallenge => "REQUEST_RANDOM_NUM_CHALLENGE"
  | requestPskdHash => "REQUEST_PSKD_HASH"
  | activeDataset => "ACTIVE_DATASET"
  | threadStart => "THREAD_START"
  | threadStop => "THREAD_STOP"
  | decommission => "DECOMMISSION"
  | application => "APPLICATION"

/-- The named tag that an octet stands for. -/
def ofOctet? (tag : UInt8) : Option TagName :=
  all.find? fun name => name.octet == tag

/-- Every named tag is in the list of them. -/
theorem mem_all (name : TagName) : name ∈ all := by
  cases name <;> decide

/-- Reading the octet of a named tag gives the tag back. -/
theorem ofOctet?_octet (name : TagName) : ofOctet? name.octet = some name := by
  cases name <;> decide

end TagName

/-! ## Statuses -/

/-- What a status answer reports. -/
inductive Status where
  | success
  | unsupported
  | parseError
  | valueError
  | generalError
  | busy
  | undefined
  | hashError
  | unauthorized
  deriving DecidableEq

namespace Status

/-- The name of a status as device logs write it. -/
def label : Status → String
  | success => "SUCCESS"
  | unsupported => "UNSUPPORTED"
  | parseError => "PARSE_ERROR"
  | valueError => "VALUE_ERROR"
  | generalError => "GENERAL_ERROR"
  | busy => "BUSY"
  | undefined => "UNDEFINED"
  | hashError => "HASH_ERROR"
  | unauthorized => "UNAUTHORIZED"

/-- The status that an octet stands for. -/
def ofOctet? (octet : UInt8) : Option Status :=
  if octet = 0 then some success
  else if octet = 1 then some unsupported
  else if octet = 2 then some parseError
  else if octet = 3 then some valueError
  else if octet = 4 then some generalError
  else if octet = 5 then some busy
  else if octet = 6 then some undefined
  else if octet = 7 then some hashError
  else if octet = 16 then some unauthorized
  else none

end Status

/-! ## What a record says about itself -/

namespace Tlv

/-- The record of a named tag. -/
def named (name : TagName) (value : Octets) : Tlv :=
  ⟨name.octet, value⟩

/-- The name of the tag, for the tags that have one. -/
def kind (record : Tlv) : Option TagName :=
  TagName.ofOctet? record.tag

/-- The status of a status answer whose value is a single known octet. -/
def status (record : Tlv) : Option Status :=
  if record.kind = some .responseWithStatus then
    match record.value with
    | [octet] => Status.ofOctet? octet
    | _ => none
  else none

end Tlv

/-- The name shown for a tag, which is `UNKNOWN` when it has none. -/
def tagLabel (tag : UInt8) : String :=
  match TagName.ofOctet? tag with
  | some name => name.label
  | none => "UNKNOWN"

end Commissioner
