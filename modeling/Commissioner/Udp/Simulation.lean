import Commissioner.Peer
import Commissioner.Text.Quoted

/-!
# Simulated nodes

A node can be simulated on a host, where it takes every datagram as a piece of
its stream. It listens on the port that its number adds to a base, or on the last
port there is. A search finds the one node that is asked for.
-/

set_option autoImplicit false

namespace Commissioner

/-- How a simulated node is talked to. -/
structure Simulation where
  /-- The host on which it is simulated. -/
  host : String
  /-- Its number. -/
  node : Nat
  /-- The size of the largest datagram written to it. -/
  maxWrite : Nat
  /-- The number of octets that wait on the way in each direction. -/
  capacity : Nat
  deriving DecidableEq

namespace Simulation

/-- What is usual. -/
def default : Simulation :=
  ⟨"127.0.0.1", 1, 1024, 65536⟩

instance : Inhabited Simulation := ⟨default⟩

/-- The port to which the number of a node is added. -/
def basePort : Nat := 10000

def lastPort : Nat := 65535

/-- The port on which the node listens. -/
def port (simulation : Simulation) : Nat :=
  min lastPort (basePort + simulation.node)

/-- The address of the node. -/
def address (simulation : Simulation) : String :=
  simulation.host ++ ":" ++ toString simulation.port

/-- What a search finds. -/
def peer (simulation : Simulation) : Peer :=
  ⟨"Simulated node " ++ toString simulation.node, simulation.address, none⟩

/-- The simulation in words. -/
def describe (simulation : Simulation) : String :=
  "UdpLink \x7b config: UdpConfig \x7b host: " ++ Quoted.text simulation.host
    ++ ", node_id: " ++ toString simulation.node
    ++ ", max_write: " ++ toString simulation.maxWrite
    ++ ", pipe_capacity: " ++ toString simulation.capacity ++ " \x7d \x7d"

end Simulation

end Commissioner
