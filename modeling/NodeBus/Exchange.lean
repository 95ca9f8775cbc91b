import NodeBus.Bus
import NodeBus.BusSettings
import NodeBus.Deframer
import NodeBus.NodeTable
import NodeBus.Outcome

/-!
# One exchange

A command frame goes out and, unless it was a broadcast, one answer frame is awaited byte by byte. The
answer is judged in a fixed order: its length, its checksum, its header, and last whether its status
bytes fit. Nothing compares the address and command in the answer with those of the request.
-/
namespace NodeBus.Exchange

structure Exchanged where
  outcome : Outcome
  packet : Packet
  bus : Bus
  deriving Repr

/-- Takes one byte of an answer, and has heard enough when the frame is complete or broken. -/
def hear (deframer : Deframer) (byte : UInt8) : Hearing (Except BusError (List UInt8)) Deframer :=
  match deframer.feed byte with
  | (deframer, .complete) => .enough (.ok deframer.body)
  | (_, .broken) => .enough (.error .framing)
  | (deframer, .more) => .more deframer

/-- Silence in the middle of an answer is a broken frame; silence from the start is no answer. -/
def silence (deframer : Deframer) : BusError := if deframer.started then .framing else .rxTimeout

def receive (bus : Bus) (budget : Nat) : Except BusError (List UInt8) × Bus :=
  match bus.listen budget hear {} with
  | (.enough body, bus) => (body, bus)
  | (.more deframer, bus) => (.error (silence deframer), bus)

/-- The status bytes of an answer to a command sent in the given variant. -/
def judge (variant : Variant) (body : List UInt8) : Except BusError (List UInt8) :=
  match body with
  | header :: _ :: _ :: rest =>
    if rest.length < variant.length then .error .framing
    else if !variant.passes body then .error .crc
    else if Header.ofByte? header = some (.ack variant) then
      .ok (rest.take (rest.length - variant.length))
    else if Header.ofByte? header = some (.nak variant) then .error .nak
    else .error .format
  | _ => .error .framing

/-- Enters the judged status bytes into the packet. More of them than a packet holds empty its
status and count as a broken frame. -/
def settle (timing : Timing) (bus : Bus) (packet : Packet) (status : List UInt8) : Exchanged :=
  match Bounded.ofList? status with
  | none => { outcome := .error .framing, packet := { packet with status := .empty }, bus }
  | some status =>
    { outcome := .ok (), packet := { packet with status }, bus := bus.pause timing.ackSettle }

def answer (timing : Timing) (variant : Variant) (bus : Bus) (packet : Packet) (budget : Nat) :
    Exchanged :=
  match receive bus budget with
  | (.error error, bus) => { outcome := .error error, packet, bus }
  | (.ok body, bus) =>
    match judge variant body with
    | .error error => { outcome := .error error, packet, bus }
    | .ok status => settle timing bus packet status

/-- Sends a packet in the variant its node was last heard in, and takes up the answer. -/
def run (table : NodeTable) (timing : Timing) (bus : Bus) (packet : Packet) (budget : Nat) :
    Exchanged :=
  let variant := table.variantFor packet.address
  match Frame.encodeCommand? variant packet with
  | none => { outcome := .error .invalidParam, packet, bus }
  | some frame =>
    match bus.write timing.write frame with
    | (false, bus) => { outcome := .error .txTimeout, packet, bus }
    | (true, bus) =>
      if packet.isBroadcast then
        { outcome := .ok (), packet, bus := bus.pause timing.broadcastSettle }
      else answer timing variant bus packet budget

end NodeBus.Exchange
