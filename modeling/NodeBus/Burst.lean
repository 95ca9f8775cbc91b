import NodeBus.Escape
import NodeBus.Header

/-!
# Bursts of idle input

A node may ask for attention while the bus is idle, with a frame of its header, its address and a
checksum. Whatever arrives on the idle bus is collected as one burst, up to a limit. Only a burst that
starts with the start marker can be a frame; any other is collected to its end and then given up.
-/
namespace NodeBus

def maxBurst : Nat := 256

structure InterruptRequest where
  address : UInt8
  variant : Variant
  deriving DecidableEq, Repr

/-- A serviced interrupt: who asked, and the first three status bytes it gave as its reason. -/
structure Interrupt where
  address : UInt8
  reason : UInt8 × UInt8 × UInt8
  deriving DecidableEq, Repr

inductive Burst.Phase where
  | empty | frame | escaped | noise
  deriving DecidableEq, Repr

/-- The bytes collected so far, without markers and escapes. -/
structure Burst where
  phase : Burst.Phase := .empty
  bytes : List UInt8 := []
  deriving DecidableEq, Repr

namespace Burst

def isFull (burst : Burst) : Bool := burst.bytes.length == maxBurst

/-- Keeps one byte; a full burst stays as it is. -/
def store (burst : Burst) (byte : UInt8) : Burst :=
  match Escape.store? maxBurst burst.bytes byte with
  | some bytes => { burst with bytes }
  | none => burst

/-- Takes one byte, and tells whether it ended the frame. -/
def feed (burst : Burst) (byte : UInt8) : Burst × Bool :=
  match burst.phase with
  | .empty =>
    if byte = Escape.stx then ({ burst with phase := .frame }, false)
    else ({ burst.store byte with phase := .noise }, false)
  | .escaped => ({ burst.store byte with phase := .frame }, false)
  | .frame =>
    if byte = Escape.etx then (burst, true)
    else if byte = Escape.subst then ({ burst with phase := .escaped }, false)
    else (burst.store byte, false)
  | .noise => (burst.store byte, false)

/-- The request a complete frame carries: an interrupt header, an address and the right checksum,
and nothing else. -/
def request? (burst : Burst) : Option InterruptRequest :=
  match burst.bytes with
  | first :: address :: check =>
    match Header.ofByte? first with
    | some (.interrupt variant) =>
      if check.length = variant.length ∧ variant.passes burst.bytes then some { address, variant }
      else none
    | _ => none
  | _ => none

/-- The request of a burst that ended as told: only a frame that was ended by its marker counts. -/
def finish (burst : Burst) (complete : Bool) : Option InterruptRequest :=
  if complete then burst.request? else none

end Burst

end NodeBus
