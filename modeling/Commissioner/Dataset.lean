import Commissioner.Text.Blank
import Commissioner.Text.Hex
import Commissioner.Tlv.Wire

/-!
# Datasets

A dataset is what a device is commissioned with. Its contents are of no concern
here: it holds at least one octet and no more than fit in one record. It is read
from hexadecimal text, blanks around it apart.
-/

set_option autoImplicit false

namespace Commissioner

/-- A dataset, which fits in one record and is not empty. -/
structure Dataset where
  /-- The contents. -/
  octets : Octets
  /-- There is at least one octet. -/
  nonempty : octets ≠ []
  /-- The contents fit in one record. -/
  fits : octets.length ≤ maxValueLength
  deriving DecidableEq

/-- Why something is no dataset. -/
inductive DatasetError where
  /-- The text is not hexadecimal. -/
  | invalidHex (flaw : Hex.Flaw)
  /-- There is nothing in it. -/
  | empty
  /-- It does not fit in one record. -/
  | tooLarge (size limit : Nat)
  deriving DecidableEq

/-- The reason in words. -/
def DatasetError.message : DatasetError → String
  | .invalidHex flaw => "invalid dataset hex: " ++ flaw.message
  | .empty => "dataset is empty"
  | .tooLarge size limit =>
      "dataset is " ++ toString size ++ " bytes, limit is " ++ toString limit

namespace Dataset

/-- The dataset with these contents. -/
def ofOctets (octets : Octets) : Except DatasetError Dataset :=
  if nonempty : octets = [] then .error .empty
  else if fits : octets.length ≤ maxValueLength then .ok ⟨octets, nonempty, fits⟩
  else .error (.tooLarge octets.length maxValueLength)

/-- The dataset that a hexadecimal text spells. -/
def ofHex (text : String) : Except DatasetError Dataset :=
  match Hex.decode (Text.trim text) with
  | .ok octets => ofOctets octets
  | .error flaw => .error (.invalidHex flaw)

/-- A dataset in hexadecimal. -/
def toHex (dataset : Dataset) : String :=
  Hex.encode dataset.octets

/-- The number of octets. -/
def size (dataset : Dataset) : Nat :=
  dataset.octets.length

/-- A dataset in words, without its contents. -/
def describe (dataset : Dataset) : String :=
  "ActiveDataset \x7b len: " ++ toString dataset.size ++ " \x7d"

/-- The built-in dataset: a timestamp, channel 15, a channel mask, an extended
PAN identifier, a mesh-local range, a network key, the network name
`OpenThreadDemo`, PAN identifier 0x1234, a commissioning key and a security policy. -/
def builtIn : Dataset where
  octets :=
    [0x0e, 0x08, 0x00, 0x00, 0x00, 0x00, 0x00, 0x01, 0x00, 0x00,
      0x00, 0x03, 0x00, 0x00, 0x0f,
      0x35, 0x06, 0x00, 0x04, 0x00, 0x1f, 0xff, 0xe0,
      0x02, 0x08, 0x11, 0x11, 0x11, 0x11, 0x22, 0x22, 0x22, 0x22,
      0x07, 0x08, 0xfd, 0xad, 0x70, 0xbf, 0xe5, 0xaa, 0x15, 0xdd,
      0x05, 0x10, 0x00, 0x11, 0x22, 0x33, 0x44, 0x55, 0x66, 0x77,
      0x88, 0x99, 0xaa, 0xbb, 0xcc, 0xdd, 0xee, 0xff,
      0x03, 0x0e, 0x4f, 0x70, 0x65, 0x6e, 0x54, 0x68, 0x72, 0x65, 0x61, 0x64,
      0x44, 0x65, 0x6d, 0x6f,
      0x01, 0x02, 0x12, 0x34,
      0x04, 0x10, 0x44, 0x5f, 0x2b, 0x5c, 0xa6, 0xf2, 0xa9, 0x3a, 0x55, 0xce,
      0x57, 0x0a, 0x70, 0xef, 0xee, 0xcb,
      0x0c, 0x04, 0x02, 0xa0, 0xf7, 0xf8]
  nonempty := by decide
  fits := by decide

instance : Inhabited Dataset := ⟨builtIn⟩

end Dataset

end Commissioner
