import NodeBus.Burst
import NodeBus.Exchange
import NodeBus.Statistics

/-!
# The controller

The controller owns the bus. It repeats failed exchanges, scans for nodes, passes raw bytes through, and
services the interrupts that nodes raise on the idle bus. It remembers what it heard from each node and
counts the attempts made for clients and for interrupts; scans and single exchanges are not counted.
-/
namespace NodeBus

structure Controller where
  settings : BusSettings := {}
  nodes : NodeTable := {}
  statistics : Statistics := {}
  bus : Bus := {}

structure Sent where
  outcome : Outcome
  packet : Packet
  controller : Controller

/-- The most bytes of a raw exchange, in each direction. -/
def maxRaw : Nat := 64

/-- The most nodes a scan lists: every address but the broadcast address. -/
def maxScan : Nat := 255

structure NodeInfo where
  address : UInt8
  nodeType : UInt16
  firmware : UInt16
  deriving DecidableEq, Repr

abbrev NodeList := Bounded NodeInfo maxScan

/-- A raw exchange: the bytes to write, the number of bytes to read, and the budgets in milliseconds
for the write and for each byte read. -/
structure RawRequest where
  tx : Bounded UInt8 maxRaw
  txTimeout : UInt32
  expect : UInt8
  rxTimeout : UInt32
  deriving DecidableEq, Repr

/-- Two bytes of a status, low byte first; missing bytes are zero. -/
def wordAt (status : List UInt8) (index : Nat) : UInt16 :=
  (status[index]?.getD 0).toUInt16 ||| ((status[index + 1]?.getD 0).toUInt16 <<< 8)

def identifyQuery (address : UInt8) : Packet where
  address
  command := identifyCommand
  params := ⟨[0, 0, 0, 0], by decide⟩

def interruptQuery (address : UInt8) : Packet where
  address
  command := interruptStatusCommand
  params := ⟨[0, 0, 0], by decide⟩

def NodeInfo.ofStatus (address : UInt8) (status : List UInt8) : NodeInfo where
  address
  nodeType := wordAt status 0
  firmware := wordAt status 2

/-- The reason a node gives for its interrupt; missing bytes are zero. -/
def Interrupt.ofStatus (address : UInt8) (status : List UInt8) : Interrupt where
  address
  reason := (status[0]?.getD 0, status[1]?.getD 0, status[2]?.getD 0)

namespace Controller

/-- Replaces the settings, with a scan limit that no single node exceeds. -/
def configure (controller : Controller) (settings : BusSettings) : Controller :=
  { controller with settings := settings.clamped }

/-- The statistics so far, starting over from zero. -/
def takeStatistics (controller : Controller) : Statistics × Controller :=
  (controller.statistics, { controller with statistics := {} })

/-- One exchange that is not counted. -/
def exchange (controller : Controller) (packet : Packet) (budget : Nat) : Sent :=
  let exchanged :=
    Exchange.run controller.nodes controller.settings.timing controller.bus packet budget
  { outcome := exchanged.outcome
    packet := exchanged.packet
    controller := { controller with bus := exchanged.bus } }

/-- One exchange that is counted. -/
def attempt (controller : Controller) (packet : Packet) : Sent :=
  let sent := controller.exchange packet controller.settings.timing.response
  { sent with
    controller :=
      { sent.controller with statistics := sent.controller.statistics.record sent.outcome } }

/-- Attempts an exchange, and up to `retries` more times while the failure is worth it. -/
def persist : Nat → Controller → Packet → Sent
  | 0, controller, packet => controller.attempt packet
  | retries + 1, controller, packet =>
    let sent := controller.attempt packet
    match sent.outcome with
    | .ok () => sent
    | .error error =>
      if error.isRetryable then persist retries sent.controller sent.packet else sent

def send (controller : Controller) (packet : Packet) : Sent :=
  persist controller.settings.retries.toNat controller packet

/-- Queries addresses in order. Only a failing write ends the scan early. -/
def scanOver (controller : Controller) (found : NodeList) :
    List UInt8 → Outcome × NodeList × Controller
  | [] => (.ok (), found, controller)
  | address :: rest =>
    let sent := controller.exchange (identifyQuery address) controller.settings.timing.scanResponse
    match sent.outcome with
    | .ok () =>
      match found.push? (.ofStatus address sent.packet.status.items) with
      | none => (.ok (), found, sent.controller)
      | some found => scanOver sent.controller found rest
    | .error .txTimeout => (.error .txTimeout, found, sent.controller)
    | .error _ => scanOver sent.controller found rest

/-- The addresses a scan visits: from zero to the limit, never the broadcast address. -/
def scanAddresses (settings : BusSettings) : List UInt8 :=
  (List.range (settings.clamped.maxNodeAddress.toNat + 1)).map UInt8.ofNat

/-- Finds the nodes on the bus, and lists them in place of what the list held before. -/
def scanInto (controller : Controller) (held : NodeList) : Outcome × NodeList × Controller :=
  controller.scanOver held.cleared (scanAddresses controller.settings)

def scan (controller : Controller) : Outcome × NodeList × Controller := controller.scanInto .empty

/-- Asks every node to announce what it can do. -/
def enumerate (controller : Controller) : Sent :=
  controller.exchange { address := broadcastAddress, command := announceCommand }
    controller.settings.timing.response

def hearRaw (expect : Nat) (held : Bounded UInt8 maxRaw) (byte : UInt8) :
    Hearing (Bounded UInt8 maxRaw) (Bounded UInt8 maxRaw) :=
  match held.push? byte with
  | none => .enough held
  | some held => if held.items.length < expect then .more held else .enough held

def readRaw (bus : Bus) (budget expect : Nat) : Bounded UInt8 maxRaw × Bus :=
  if expect = 0 then (.empty, bus)
  else
    match bus.listen budget (hearRaw expect) .empty with
    | (.enough held, bus) => (held, bus)
    | (.more held, bus) => (held, bus)

/-- Writes bytes as they are, and reads back as many as expected or as come in time. -/
def raw (controller : Controller) (request : RawRequest) :
    Except BusError (Bounded UInt8 maxRaw) × Controller :=
  if request.tx.items = [] ∨ maxRaw < request.expect.toNat then (.error .invalidParam, controller)
  else
    match controller.bus.write request.txTimeout.toNat request.tx.items with
    | (false, bus) => (.error .txTimeout, { controller with bus })
    | (true, bus) =>
      let (held, bus) := readRaw bus request.rxTimeout.toNat request.expect.toNat
      (.ok held, { controller with bus })

/-- Takes one byte of a burst, and has heard enough when its frame ended or the burst is full. -/
def hearBurst (burst : Burst) (byte : UInt8) : Hearing (Burst × Bool) Burst :=
  match burst.feed byte with
  | (burst, true) => .enough (burst, true)
  | (burst, false) => if burst.isFull then .enough (burst, false) else .more burst

def collectBurst (bus : Bus) (gap : Nat) : Option InterruptRequest × Bus :=
  match bus.listen gap hearBurst {} with
  | (.enough (burst, complete), bus) => (burst.finish complete, bus)
  | (.more _, bus) => (none, bus)

/-- Takes up what arrived on the idle bus. A node that asks for attention is from now on addressed the
way it was heard, and is asked for its reason at once; without an answer the reason is zero. -/
def serviceInterrupt (controller : Controller) : Option Interrupt × Controller :=
  match collectBurst controller.bus controller.settings.timing.interruptGap with
  | (none, bus) =>
    (none, { controller with bus, statistics := controller.statistics.spurious })
  | (some request, bus) =>
    let nodes := controller.nodes.heardInterrupt request.address request.variant
    let sent := { controller with bus, nodes }.send (interruptQuery request.address)
    match sent.outcome with
    | .ok () => (some (.ofStatus request.address sent.packet.status.items), sent.controller)
    | .error _ => (some (.ofStatus request.address []), sent.controller)

end Controller

end NodeBus
