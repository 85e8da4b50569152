import Commissioner.Wifi.Network

/-!
# Batches of answers

A border router tells networks and states in several records and ends them with
a mark. A batch of networks ends at the first record marked as success or
failure; records that tell no network are skipped. A batch of states ends at the
first marked record of any kind, and the last state told before it counts.
-/

set_option autoImplicit false

namespace Commissioner

structure NetworkBatch where
  /-- The networks, in the order in which they came. -/
  networks : List Network
  /-- Whether the border router reported a failure. -/
  failed : Bool
  deriving DecidableEq

/-- Gathers networks up to the mark that ends them. -/
def NetworkBatch.gather : List Tlv → NetworkBatch
  | [] => ⟨[], false⟩
  | record :: rest =>
      match Reply.ofRecord record with
      | .failed => ⟨[], true⟩
      | .ok => ⟨[], false⟩
      | .notSupported | .data =>
          let batch := gather rest
          match Network.read record.text with
          | .ok network => { batch with networks := network :: batch.networks }
          | .error _ => batch

/-- The state told by a batch. -/
structure StationBatch where
  /-- The last state told before the mark. -/
  station : Option Station
  /-- The mark that ended the batch, if one did. -/
  terminator : Option Reply
  deriving DecidableEq

/-- Gathers the state told behind `sofar`, up to the mark that ends the batch. -/
def StationBatch.gatherFrom (sofar : Option Station) : List Tlv → StationBatch
  | [] => ⟨sofar, none⟩
  | record :: rest =>
      match Reply.ofRecord record with
      | .data =>
          match Station.read record.text with
          | .ok station => gatherFrom (some station) rest
          | .error _ => gatherFrom sofar rest
      | mark => ⟨sofar, some mark⟩

/-- Gathers the state told by records. -/
def StationBatch.gather (records : List Tlv) : StationBatch :=
  gatherFrom none records

end Commissioner
