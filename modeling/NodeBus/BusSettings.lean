import NodeBus.Packet

/-!
# How the bus is driven

The time budgets of an exchange, in milliseconds, and the limits of retrying and scanning.
-/
namespace NodeBus

/-- Time budgets, in milliseconds. -/
structure Timing where
  write : Nat := 1000
  /-- Each byte of an answer. -/
  response : Nat := 250
  scanResponse : Nat := 50
  /-- Each byte of a burst on the idle bus. -/
  interruptGap : Nat := 10
  broadcastSettle : Nat := 1
  ackSettle : Nat := 1
  deriving DecidableEq, Repr

structure BusSettings where
  retries : UInt8 := 3
  maxNodeAddress : UInt8 := NodeBus.maxNodeAddress
  timing : Timing := {}
  deriving DecidableEq, Repr

/-- The same settings with a scan limit that no single node exceeds. -/
def BusSettings.clamped (settings : BusSettings) : BusSettings :=
  { settings with maxNodeAddress := min settings.maxNodeAddress NodeBus.maxNodeAddress }

end NodeBus
