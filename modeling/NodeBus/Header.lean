import NodeBus.Checksum

/-!
# Header control bytes

The first byte of every frame says what kind of frame it is and which checksum protects it.
-/
namespace NodeBus

inductive Header where
  | command (variant : Variant)
  | interrupt (variant : Variant)
  | ack (variant : Variant)
  | nak (variant : Variant)
  deriving DecidableEq, Repr

namespace Header

def variant : Header → Variant
  | .command variant | .interrupt variant | .ack variant | .nak variant => variant

def toByte : Header → UInt8
  | .command .crc8 => 0x01
  | .command .crc16 => 0x05
  | .interrupt .crc8 => 0x02
  | .interrupt .crc16 => 0x03
  | .ack .crc8 => 0xC1
  | .ack .crc16 => 0xC5
  | .nak .crc8 => 0x81
  | .nak .crc16 => 0x85

def ofByte? (byte : UInt8) : Option Header :=
  match byte with
  | 0x01 => some (.command .crc8)
  | 0x05 => some (.command .crc16)
  | 0x02 => some (.interrupt .crc8)
  | 0x03 => some (.interrupt .crc16)
  | 0xC1 => some (.ack .crc8)
  | 0xC5 => some (.ack .crc16)
  | 0x81 => some (.nak .crc8)
  | 0x85 => some (.nak .crc16)
  | _ => none

end Header

end NodeBus
