import NodeBus.Bounded

/-!
# Binary codecs

A codec writes values as bytes and reads them back from the front of some bytes, giving what is left.
Numbers wider than a byte are written in groups of seven bits, lowest group first, every byte but the last
with its high bit set. A reader takes at most as many bytes as the widest number needs and refuses a last
possible byte that would overflow; a number written longer than needed is accepted within that length.
Lists and texts are preceded by their length.
-/
namespace NodeBus

/-- Writing values as bytes, and reading them from the front of some bytes. -/
structure Codec (α : Type) where
  encode : α → List UInt8
  decode : List UInt8 → Option (α × List UInt8)

namespace Codec

/-- How long a number may get: the most bytes behind the first, and the largest value of the byte
that follows those. -/
structure Width where
  following : Nat
  lastMax : Nat
  deriving DecidableEq, Repr

def Width.word16 : Width := { following := 2, lastMax := 3 }

def Width.word32 : Width := { following := 4, lastMax := 15 }

def Width.word64 : Width := { following := 9, lastMax := 1 }

/-- Writes a number as one byte and at most `following` more. -/
def writeNumber : Nat → Nat → List UInt8
  | 0, value => [value.toUInt8]
  | following + 1, value =>
    if value < 128 then [value.toUInt8]
    else (value % 128 + 128).toUInt8 :: writeNumber following (value / 128)

def readNumber (lastMax : Nat) : Nat → List UInt8 → Option (Nat × List UInt8)
  | _, [] => none
  | 0, byte :: rest => if byte.toNat ≤ lastMax then some (byte.toNat, rest) else none
  | following + 1, byte :: rest =>
    if byte.toNat < 128 then some (byte.toNat, rest)
    else
      match readNumber lastMax following rest with
      | some (high, rest) => some (byte.toNat - 128 + 128 * high, rest)
      | none => none

def byte : Codec UInt8 where
  encode value := [value]
  decode
    | [] => none
    | value :: rest => some (value, rest)

def number (width : Width) : Codec Nat where
  encode := writeNumber width.following
  decode := readNumber width.lastMax width.following

def decodeAs {α β : Type} (codec : Codec α) (make : α → β) (input : List UInt8) :
    Option (β × List UInt8) :=
  match codec.decode input with
  | none => none
  | some (value, rest) => some (make value, rest)

/-- The same bytes for values of another type. -/
def map {α β : Type} (codec : Codec α) (make : α → β) (back : β → α) : Codec β where
  encode value := codec.encode (back value)
  decode := codec.decodeAs make

def pair {α β : Type} (first : Codec α) (second : Codec β) : Codec (α × β) where
  encode value := first.encode value.1 ++ second.encode value.2
  decode input :=
    match first.decode input with
    | none => none
    | some (left, rest) =>
      match second.decode rest with
      | none => none
      | some (right, rest) => some ((left, right), rest)

def word16 : Codec UInt16 := (number .word16).map Nat.toUInt16 UInt16.toNat

def word32 : Codec UInt32 := (number .word32).map Nat.toUInt32 UInt32.toNat

def size : Codec Nat := number .word64

def readMany {α : Type} (codec : Codec α) : Nat → List UInt8 → Option (List α × List UInt8)
  | 0, input => some ([], input)
  | count + 1, input =>
    match codec.decode input with
    | none => none
    | some (value, rest) =>
      match readMany codec count rest with
      | none => none
      | some (values, rest) => some (value :: values, rest)

/-- A list of limited length, behind its length. -/
def bounded {α : Type} (capacity : Nat) (codec : Codec α) : Codec (Bounded α capacity) where
  encode list := size.encode list.items.length ++ list.items.flatMap codec.encode
  decode input :=
    match size.decode input with
    | none => none
    | some (count, rest) =>
      if capacity < count then none
      else
        match readMany codec count rest with
        | none => none
        | some (values, rest) => (Bounded.ofList? values).map fun list => (list, rest)

/-- A text of limited length in UTF-8, behind its length. -/
def text (capacity : Nat) : Codec (BoundedText capacity) where
  encode held := size.encode held.text.utf8ByteSize ++ held.text.toByteArray.data.toList
  decode input :=
    match size.decode input with
    | none => none
    | some (count, rest) =>
      if capacity < count then none
      else
        match readMany byte count rest with
        | none => none
        | some (bytes, rest) =>
          match String.fromUTF8? ⟨bytes.toArray⟩ with
          | none => none
          | some text => (BoundedText.ofString? text).map fun held => (held, rest)

/-- The number that stands in front of one of several kinds of message. -/
def tag : Codec Nat := number .word32

end Codec

end NodeBus
