/-!
# The bus as seen from the controller's port

A bus is a clock, the replies the nodes will give to the next writes, the items on their way to the port,
and the frames written so far. Time stands still while the controller works and moves only while it
waits. An awaited event that happens exactly at the end of its budget still happens.
-/
namespace NodeBus

/-- What a read can meet: a byte, or a failure of the port. -/
inductive Item where
  | byte (value : UInt8)
  | fault
  deriving DecidableEq, Repr

structure Arrival where
  item : Item
  time : Nat
  deriving DecidableEq, Repr

/-- What one write brings about. The write takes `write` milliseconds, or never ends when it `stalls`;
when it `fails` nothing was sent. The answer starts `after` milliseconds later, one byte every `gap`
milliseconds, and ends in a failing read when `readFails`. -/
structure Reply where
  bytes : List UInt8 := []
  after : Nat := 0
  gap : Nat := 0
  write : Nat := 0
  fails : Bool := false
  stalls : Bool := false
  readFails : Bool := false
  deriving DecidableEq, Repr

def Reply.items (reply : Reply) : List Item :=
  reply.bytes.map .byte ++ if reply.readFails then [.fault] else []

/-- When items sent from `time` on, `gap` apart, arrive behind an item that arrives at `floor`:
no item overtakes the one before it. -/
def arrivals (gap time floor : Nat) : List Item → List Arrival
  | [] => []
  | item :: rest => { item, time := max time floor } :: arrivals gap (time + gap) (max time floor) rest

/-- The time an arrival is read by someone who starts to wait at `now`, if it comes within the budget. -/
def Arrival.within (arrival : Arrival) (now budget : Nat) : Option Nat :=
  if arrival.time ≤ now + budget then some (max now arrival.time) else none

/-- What a listener makes of one more byte: it has heard enough, or goes on. A listener that is still
going on when nothing more comes in time was left in silence. -/
inductive Hearing (ρ σ : Type) where
  | enough (result : ρ)
  | more (state : σ)

structure Bus where
  now : Nat := 0
  script : List Reply := []
  queue : List Arrival := []
  written : List (List UInt8) := []
  deriving DecidableEq, Repr

/-- Reads queued items one by one, each waited for up to `budget`, until the listener has heard
enough, a read fails, or nothing comes in time. An item that comes too late stays queued. -/
def listenTo {ρ σ : Type} (budget : Nat) (hear : σ → UInt8 → Hearing ρ σ) (state : σ) (now : Nat) :
    List Arrival → Hearing ρ σ × Nat × List Arrival
  | [] => (.more state, now + budget, [])
  | arrival :: rest =>
    match arrival.within now budget, arrival.item with
    | none, _ => (.more state, now + budget, arrival :: rest)
    | some now, .fault => (.more state, now, rest)
    | some now, .byte value =>
      match hear state value with
      | .enough result => (.enough result, now, rest)
      | .more state => listenTo budget hear state now rest

namespace Bus

def pause (bus : Bus) (milliseconds : Nat) : Bus := { bus with now := bus.now + milliseconds }

def expect (bus : Bus) (replies : List Reply) : Bus := { bus with script := bus.script ++ replies }

/-- Queues the items of a reply behind those already on their way. -/
def deliver (bus : Bus) (reply : Reply) : Bus :=
  let floor := (bus.queue.getLast?.map Arrival.time).getD 0
  { bus with queue := bus.queue ++ arrivals reply.gap (bus.now + reply.after) floor reply.items }

/-- Writes one frame within a budget, and tells whether it was sent. Each write uses up the next
reply of the script, also one that fails or is cut off; behind the script the nodes are silent. -/
def write (bus : Bus) (budget : Nat) (data : List UInt8) : Bool × Bus :=
  let reply := bus.script.headD {}
  let bus := { bus with script := bus.script.tail }
  if reply.stalls ∨ budget < reply.write then (false, bus.pause budget)
  else if reply.fails then (false, bus.pause reply.write)
  else
    let bus := bus.pause reply.write
    (true, { bus with written := bus.written ++ [data] }.deliver reply)

def listen {ρ σ : Type} (bus : Bus) (budget : Nat) (hear : σ → UInt8 → Hearing ρ σ) (state : σ) :
    Hearing ρ σ × Bus :=
  let (hearing, now, queue) := listenTo budget hear state bus.now bus.queue
  (hearing, { bus with now, queue })

end Bus

end NodeBus
