import NodeBus.Checksum
import NodeBus.Packet

/-!
# What is known about each node

Older nodes know only the short checksum. A node shows that it knows the long one by using it in an
interrupt frame, and is addressed the way it was last heard.
-/
namespace NodeBus

structure Node where
  variant : Variant := .crc8
  interrupter : Bool := false
  deriving DecidableEq, Repr

/-- The checksum of the latest interrupt frame is the one the node is addressed with from now on. -/
def Node.heardInterrupt (_ : Node) (variant : Variant) : Node := { variant, interrupter := true }

structure NodeTable where
  node : UInt8 → Node := fun _ => {}

namespace NodeTable

def heardInterrupt (table : NodeTable) (address : UInt8) (variant : Variant) : NodeTable where
  node other := if other = address then (table.node address).heardInterrupt variant else table.node other

/-- The checksum for frames to `address`. Broadcasts use the one that every node knows. -/
def variantFor (table : NodeTable) (address : UInt8) : Variant :=
  if address = broadcastAddress then .crc8 else (table.node address).variant

end NodeTable

end NodeBus
