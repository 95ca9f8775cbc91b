/-!
# Escaping

Frames stand between two marker bytes. A byte of the body that could be taken for a marker, or for the
escape byte itself, is preceded by the escape byte. Output goes into a buffer of limited capacity; when a
byte does not fit, the buffer keeps what was stored before it, which may end in an escape byte whose
partner found no room.
-/
namespace NodeBus.Escape

def stx : UInt8 := 0x02

def etx : UInt8 := 0x03

/-- The escape byte: the byte behind it stands for itself. -/
def subst : UInt8 := 0x04

inductive Fault where
  | overflow | framing
  deriving DecidableEq, Repr

/-- What a buffer holds after a run, and what stopped the run early. -/
structure Filled where
  buffer : List UInt8
  fault : Option Fault := none
  deriving DecidableEq, Repr

def needsEscape (byte : UInt8) : Bool := byte ≤ subst

def store? (capacity : Nat) (buffer : List UInt8) (byte : UInt8) : Option (List UInt8) :=
  if buffer.length < capacity then some (buffer ++ [byte]) else none

/-- Appends `body` to the buffer, escaping where needed. -/
def stuff (capacity : Nat) (buffer : List UInt8) : List UInt8 → Filled
  | [] => { buffer }
  | byte :: rest =>
    match if needsEscape byte then store? capacity buffer subst else some buffer with
    | none => { buffer, fault := some .overflow }
    | some marked =>
      match store? capacity marked byte with
      | none => { buffer := marked, fault := some .overflow }
      | some longer => stuff capacity longer rest

/-- Appends what `data` stands for to the buffer. Data that ends in an escape byte is malformed. -/
def unstuff (capacity : Nat) (buffer : List UInt8) : List UInt8 → Filled
  | [] => { buffer }
  | [byte] =>
    if byte = subst then { buffer, fault := some .framing }
    else
      match store? capacity buffer byte with
      | none => { buffer, fault := some .overflow }
      | some longer => { buffer := longer }
  | byte :: next :: rest =>
    if byte = subst then
      match store? capacity buffer next with
      | none => { buffer, fault := some .overflow }
      | some longer => unstuff capacity longer rest
    else
      match store? capacity buffer byte with
      | none => { buffer, fault := some .overflow }
      | some longer => unstuff capacity longer (next :: rest)

end NodeBus.Escape
