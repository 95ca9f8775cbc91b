/-!
# Reading UTF-8 that may be damaged

Text from the network is read as UTF-8. Where the bytes break off from what UTF-8 allows, the longest part
that could still have been a character is read as one replacement character, and reading goes on at the
first byte that did not belong to it.
-/
namespace NodeBus.Text

def replacement : Char := '\uFFFD'

/-- A character that has begun: the bits so far, the range its next byte must lie in, and how many
bytes follow that one. -/
structure Begun where
  bits : Nat
  low : UInt8
  high : UInt8
  following : Nat
  deriving DecidableEq, Repr

inductive Lead where
  | whole (character : Char)
  | begun (begun : Begun)
  | invalid
  deriving DecidableEq, Repr

/-- Reads the first byte of a character. The range of the second byte keeps out overlong forms,
surrogates and values past the last character. -/
def Lead.ofByte (byte : UInt8) : Lead :=
  let value := byte.toNat
  if value < 0x80 then .whole (Char.ofNat value)
  else if value < 0xC2 then .invalid
  else if value < 0xE0 then .begun { bits := value - 0xC0, low := 0x80, high := 0xBF, following := 0 }
  else if value < 0xF0 then
    .begun
      { bits := value - 0xE0
        low := if value = 0xE0 then 0xA0 else 0x80
        high := if value = 0xED then 0x9F else 0xBF
        following := 1 }
  else if value < 0xF5 then
    .begun
      { bits := value - 0xF0
        low := if value = 0xF0 then 0x90 else 0x80
        high := if value = 0xF4 then 0x8F else 0xBF
        following := 2 }
  else .invalid

/-- Reads bytes as characters, in the middle of a character that has begun or between two. -/
def decodeFrom : Option Begun → List UInt8 → List Char
  | none, [] => []
  | some _, [] => [replacement]
  | none, byte :: rest =>
    match Lead.ofByte byte with
    | .whole character => character :: decodeFrom none rest
    | .begun begun => decodeFrom (some begun) rest
    | .invalid => replacement :: decodeFrom none rest
  | some begun, byte :: rest =>
    if begun.low ≤ byte ∧ byte ≤ begun.high then
      let bits := begun.bits * 64 + (byte.toNat - 0x80)
      match begun.following with
      | 0 => Char.ofNat bits :: decodeFrom none rest
      | following + 1 => decodeFrom (some { bits, low := 0x80, high := 0xBF, following }) rest
    else
      match Lead.ofByte byte with
      | .whole character => replacement :: character :: decodeFrom none rest
      | .begun begun => replacement :: decodeFrom (some begun) rest
      | .invalid => replacement :: replacement :: decodeFrom none rest

def decodeLossy (bytes : List UInt8) : List Char := decodeFrom none bytes

end NodeBus.Text
