import NodeBus.Controller

/-!
# Requests and responses

What a client asks over a command connection, and what it is answered.
-/
namespace NodeBus

/-- The longest command for the helper, in bytes of UTF-8. -/
def maxHelperCommand : Nat := 63

def maxVersion : Nat := 16

/-- The size of every envelope, in both directions. -/
def envelopeSize : Nat := 2048

inductive Request where
  | daemonInfo
  /-- Send one packet, with retries. -/
  | sendPacket (packet : Packet)
  | scan
  | statistics
  | takeStatistics
  | helper (command : BoundedText maxHelperCommand)
  | raw (request : RawRequest)
  deriving DecidableEq, Repr

structure DaemonInfo where
  version : BoundedText maxVersion
  protocol : UInt16
  envelopeSize : UInt16
  maxParams : UInt8
  maxRaw : UInt8
  deriving DecidableEq, Repr

/-- This daemon's limits under the given version; a longer version is cut between characters. -/
def DaemonInfo.ofVersion (version : String) : DaemonInfo where
  version := .cut version
  protocol := 1
  envelopeSize := NodeBus.envelopeSize.toUInt16
  maxParams := NodeBus.maxParams.toUInt8
  maxRaw := NodeBus.maxRaw.toUInt8

inductive ResponseBody where
  | empty
  | daemonInfo (info : DaemonInfo)
  | packet (packet : Packet)
  | nodes (found : NodeList)
  | statistics (statistics : Statistics)
  | raw (received : Bounded UInt8 maxRaw)
  deriving DecidableEq, Repr

structure Response where
  status : Status
  body : ResponseBody := .empty
  deriving DecidableEq, Repr

end NodeBus
