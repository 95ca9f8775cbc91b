import NodeBus.Frame

/-!
# Receiving a frame byte by byte

The deframer takes the bytes of an answer one at a time. The first byte must start a frame; a start
marker inside a frame starts it over, the two lowest byte values are line noise and are dropped, and a
body that outgrows its limit is refused. Whoever feeds it stops at the first answer other than `more`.
-/
namespace NodeBus

inductive Deframer.Phase where
  | hunting | inside | escaped
  deriving DecidableEq, Repr

inductive Deframer.Progress where
  | more | complete | broken
  deriving DecidableEq, Repr

structure Deframer where
  phase : Deframer.Phase := .hunting
  body : List UInt8 := []
  /-- A byte was taken. This stands for the count of the bytes taken, of which nothing but this is asked; that the count
  overflows after `2 ^ 64` bytes is left out. -/
  started : Bool := false
  deriving DecidableEq, Repr

namespace Deframer

/-- Adds one byte to the body and goes on inside the frame; a full body stays as it is. -/
def store (deframer : Deframer) (byte : UInt8) : Deframer × Progress :=
  match Escape.store? Frame.maxBody deframer.body byte with
  | some body => ({ deframer with phase := .inside, body }, .more)
  | none => (deframer, .broken)

def feed (deframer : Deframer) (byte : UInt8) : Deframer × Progress :=
  let deframer := { deframer with started := true }
  match deframer.phase with
  | .hunting =>
    if byte = Escape.stx then ({ deframer with phase := .inside, body := [] }, .more)
    else (deframer, .broken)
  | .inside =>
    if byte = Escape.subst then ({ deframer with phase := .escaped }, .more)
    else if byte = Escape.stx then ({ deframer with body := [] }, .more)
    else if byte = Escape.etx then (deframer, .complete)
    else if Escape.subst < byte then deframer.store byte
    else (deframer, .more)
  | .escaped => deframer.store byte

end Deframer

end NodeBus
