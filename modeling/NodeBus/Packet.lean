import NodeBus.Bounded

/-!
# Packets and addresses

A packet is one request to a node together with the status bytes it answered with. The highest address
is the broadcast address: every node hears it and none answers.
-/
namespace NodeBus

/-- The most parameter bytes in a request, and the most status bytes in an answer. -/
def maxParams : Nat := 16

def broadcastAddress : UInt8 := 0xFF

def maxNodeAddress : UInt8 := 0xFE

/-- The command that asks a node for its type and firmware level. -/
def identifyCommand : UInt8 := 0x00

def interruptStatusCommand : UInt8 := 0x03

/-- The broadcast command that asks every node to announce what it can do. -/
def announceCommand : UInt8 := 0x01

/-- One request to a node, and the status bytes of its answer. -/
structure Packet where
  address : UInt8
  command : UInt8
  params : Bounded UInt8 maxParams := .empty
  status : Bounded UInt8 maxParams := .empty
  deriving DecidableEq, Repr

def Packet.isBroadcast (packet : Packet) : Bool := packet.address == broadcastAddress

end NodeBus
