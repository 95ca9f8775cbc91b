import NodeBus.Envelope.Codec
import NodeBus.Envelope.Message

/-!
# The layout of envelopes

An envelope is the encoding of one message, filled up with zeros to a fixed size. Fields follow each
other in order, and each kind of message starts with its number. Whoever reads an envelope ignores what
follows the message.
-/
namespace NodeBus

def Packet.codec : Codec Packet :=
  let bytes := Codec.bounded maxParams Codec.byte
  (Codec.byte.pair (Codec.byte.pair (bytes.pair bytes))).map
    (fun (address, command, params, status) => { address, command, params, status })
    (fun packet => (packet.address, packet.command, packet.params, packet.status))

def RawRequest.codec : Codec RawRequest :=
  ((Codec.bounded maxRaw Codec.byte).pair (Codec.word32.pair (Codec.byte.pair Codec.word32))).map
    (fun (tx, txTimeout, expect, rxTimeout) => { tx, txTimeout, expect, rxTimeout })
    (fun request => (request.tx, request.txTimeout, request.expect, request.rxTimeout))

def NodeInfo.codec : Codec NodeInfo :=
  (Codec.byte.pair (Codec.word16.pair Codec.word16)).map
    (fun (address, nodeType, firmware) => { address, nodeType, firmware })
    (fun info => (info.address, info.nodeType, info.firmware))

def DaemonInfo.codec : Codec DaemonInfo :=
  ((Codec.text NodeBus.maxVersion).pair
    (Codec.word16.pair (Codec.word16.pair (Codec.byte.pair Codec.byte)))).map
    (fun (version, protocol, envelopeSize, maxParams, maxRaw) =>
      { version, protocol, envelopeSize, maxParams, maxRaw })
    (fun info => (info.version, info.protocol, info.envelopeSize, info.maxParams, info.maxRaw))

def Statistics.codec : Codec Statistics :=
  let word := Codec.word32
  (word.pair (word.pair (word.pair (word.pair (word.pair (word.pair (word.pair word))))))).map
    (fun (roundTrips, spuriousPackets, rxTimeouts, txTimeouts, crcErrors, framingErrors, formatErrors,
        naks) =>
      { roundTrips, spuriousPackets, rxTimeouts, txTimeouts, crcErrors, framingErrors, formatErrors,
        naks })
    (fun s =>
      (s.roundTrips, s.spuriousPackets, s.rxTimeouts, s.txTimeouts, s.crcErrors, s.framingErrors,
        s.formatErrors, s.naks))

/-- A status is written as its number. -/
def Status.codec : Codec Status where
  encode status := Codec.tag.encode status.code.toNat
  decode input :=
    match Codec.tag.decode input with
    | none => none
    | some (code, rest) => (Status.ofCode? code).map fun status => (status, rest)

/-- The number of a kind of request, and its fields. -/
def Request.codec : Codec Request where
  encode
    | .daemonInfo => Codec.tag.encode 0
    | .sendPacket packet => Codec.tag.encode 1 ++ Packet.codec.encode packet
    | .scan => Codec.tag.encode 2
    | .statistics => Codec.tag.encode 3
    | .takeStatistics => Codec.tag.encode 4
    | .helper command => Codec.tag.encode 5 ++ (Codec.text maxHelperCommand).encode command
    | .raw request => Codec.tag.encode 6 ++ RawRequest.codec.encode request
  decode input :=
    match Codec.tag.decode input with
    | some (0, rest) => some (.daemonInfo, rest)
    | some (1, rest) => Packet.codec.decodeAs .sendPacket rest
    | some (2, rest) => some (.scan, rest)
    | some (3, rest) => some (.statistics, rest)
    | some (4, rest) => some (.takeStatistics, rest)
    | some (5, rest) => (Codec.text maxHelperCommand).decodeAs .helper rest
    | some (6, rest) => RawRequest.codec.decodeAs .raw rest
    | _ => none

def ResponseBody.codec : Codec ResponseBody where
  encode
    | .empty => Codec.tag.encode 0
    | .daemonInfo info => Codec.tag.encode 1 ++ DaemonInfo.codec.encode info
    | .packet sent => Codec.tag.encode 2 ++ Packet.codec.encode sent
    | .nodes found => Codec.tag.encode 3 ++ (Codec.bounded maxScan NodeInfo.codec).encode found
    | .statistics counters => Codec.tag.encode 4 ++ Statistics.codec.encode counters
    | .raw received => Codec.tag.encode 5 ++ (Codec.bounded maxRaw Codec.byte).encode received
  decode input :=
    match Codec.tag.decode input with
    | some (0, rest) => some (.empty, rest)
    | some (1, rest) => DaemonInfo.codec.decodeAs .daemonInfo rest
    | some (2, rest) => Packet.codec.decodeAs .packet rest
    | some (3, rest) => (Codec.bounded maxScan NodeInfo.codec).decodeAs .nodes rest
    | some (4, rest) => Statistics.codec.decodeAs .statistics rest
    | some (5, rest) => (Codec.bounded maxRaw Codec.byte).decodeAs .raw rest
    | _ => none

def Response.codec : Codec Response :=
  (Status.codec.pair ResponseBody.codec).map
    (fun (status, body) => { status, body })
    (fun response => (response.status, response.body))

namespace Envelope

/-- The envelope around a message, unless the message does not fit. -/
def seal? {α : Type} (codec : Codec α) (message : α) : Option (List UInt8) :=
  let bytes := codec.encode message
  if bytes.length ≤ envelopeSize then some (bytes ++ List.replicate (envelopeSize - bytes.length) 0)
  else none

/-- The message at the front of some bytes. -/
def open? {α : Type} (codec : Codec α) (bytes : List UInt8) : Option α :=
  match codec.decode bytes with
  | none => none
  | some (message, _) => some message

end Envelope

end NodeBus
