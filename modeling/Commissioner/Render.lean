import Commissioner.Text.Grid
import Commissioner.Text.Hex
import Commissioner.Text.Json
import Commissioner.Tlv.Wire
import Commissioner.Wifi.Network

/-!
# Showing records

A record is shown in one of four formats: on one line for people, as a grid, as
JSON, or as the hexadecimal of the record itself. Where a value stands for a
status, the name of the status is shown; a value that is a text without control
characters is shown between quotes; any other value in hexadecimal.
-/

set_option autoImplicit false

namespace Commissioner

/-- The formats in which records are shown. -/
inductive Format where
  | json
  | table
  | pretty
  | raw
  deriving DecidableEq, Inhabited

namespace Render

/-- Whether a character is a control character, which is to say one of the general
category `Cc`. -/
def isControl (c : Char) : Bool :=
  c.toNat < 0x20 || (0x7F ≤ c.toNat && c.toNat < 0xA0)

/-- The text of a value that can be printed as it is. -/
def printableText? (value : Octets) : Option String :=
  match Utf8.read value with
  | .ok chars =>
      if !chars.isEmpty && chars.all (fun c => !isControl c) then some (String.ofList chars)
      else none
  | .error _ => none

/-- The name and the number of a tag. -/
def tagText (tag : UInt8) : String :=
  tagLabel tag ++ " (0x" ++ Hex.encode [tag] ++ ")"

/-- The value of a record as it is shown to people. -/
def valueText (record : Tlv) : String :=
  match record.status with
  | some status => status.label
  | none =>
      match printableText? record.value with
      | some text => "\"" ++ text ++ "\""
      | none => Hex.encode record.value

/-- A record on one line for people. -/
def pretty (record : Tlv) : String :=
  tagText record.tag ++ " len=" ++ toString record.value.length ++ " value=" ++ valueText record

/-- A record as a grid. -/
def table (record : Tlv) : String :=
  Grid.draw ["TYPE", "LENGTH", "VALUE"]
    [[tagText record.tag, toString record.value.length, valueText record]]

/-- A field that is left out when it has no value. -/
def optionalField (name : String) : Option String → List (String × Json.Value)
  | some content => [(name, .text content)]
  | none => []

def json (record : Tlv) : String :=
  Json.object
    ([("tlv_type", .number record.tag.toNat), ("type_name", .text (tagLabel record.tag)),
        ("length", .number record.value.length)]
      ++ optionalField "status" (record.status.map Status.label)
      ++ optionalField "text" (printableText? record.value)
      ++ [("value", .text (Hex.encode record.value))])

/-- The hexadecimal of a record, or of its value where it does not fit in one. -/
def raw (record : Tlv) : String :=
  match record.encode with
  | .ok octets => Hex.encode octets
  | .error _ => Hex.encode record.value

def record (format : Format) (record : Tlv) : String :=
  match format with
  | .json => json record
  | .table => table record
  | .pretty => pretty record
  | .raw => raw record

/-- The grid of networks from which the user picks one. -/
def networkTable (networks : List Network) : String :=
  Grid.draw ["Num", "SSID", "Chan", "Band", "RSSI"]
    (networks.map fun network =>
      [network.id, network.ssid, network.channel, network.band, network.rssi])

end Render

end Commissioner
