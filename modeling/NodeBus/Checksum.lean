/-!
# Checksums of the node bus

Every frame ends in one of two checksums. The short one has the polynomial x^8+x^5+x^4+1, works least
significant bit first and takes one byte. The long one has the polynomial x^16+x^12+x^5+1, works most
significant bit first and takes two bytes, low byte first. Both registers start at zero.
-/
namespace NodeBus

/-- Which of the two checksums protects a frame. -/
inductive Variant where
  | crc8 | crc16
  deriving DecidableEq, Repr

namespace Checksum

def shift8 (register : BitVec 8) : BitVec 8 :=
  if register.getLsbD 0 then (register >>> 1) ^^^ 0x8C#8 else register >>> 1

def shift16 (register : BitVec 16) : BitVec 16 :=
  if register.getLsbD 15 then (register <<< 1) ^^^ 0x1021#16 else register <<< 1

def absorb8 (register : BitVec 8) (byte : UInt8) : BitVec 8 :=
  Nat.repeat shift8 8 (register ^^^ byte.toBitVec)

def absorb16 (register : BitVec 16) (byte : UInt8) : BitVec 16 :=
  Nat.repeat shift16 8 (register ^^^ (byte.toBitVec.setWidth 16 <<< 8))

def crc8 (data : List UInt8) : UInt8 := ⟨data.foldl absorb8 0#8⟩

def crc16 (data : List UInt8) : UInt16 := ⟨data.foldl absorb16 0#16⟩

/-- A body that ends in its short checksum has the remainder zero. -/
def crc8Ok (body : List UInt8) : Bool := !body.isEmpty && crc8 body == 0

/-- A body that ends in its long checksum: the last two bytes, low byte first, are the
checksum of the bytes before them. -/
def crc16Ok (body : List UInt8) : Bool :=
  match body.drop (body.length - 2) with
  | [low, high] =>
    crc16 (body.take (body.length - 2)) == low.toUInt16 ||| (high.toUInt16 <<< 8)
  | _ => false

end Checksum

namespace Variant

def length : Variant → Nat
  | .crc8 => 1
  | .crc16 => 2

def checkBytes (variant : Variant) (body : List UInt8) : List UInt8 :=
  match variant with
  | .crc8 => [Checksum.crc8 body]
  | .crc16 =>
    let check := Checksum.crc16 body
    [check.toUInt8, (check >>> 8).toUInt8]

def passes (variant : Variant) (body : List UInt8) : Bool :=
  match variant with
  | .crc8 => Checksum.crc8Ok body
  | .crc16 => Checksum.crc16Ok body

end Variant

end NodeBus
