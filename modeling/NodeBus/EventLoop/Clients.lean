import NodeBus.EventLoop.Basic

/-!
# The event loop among its clients

What clients and the passing of time do to the loop. The loop runs as long as it finds something to do;
when it waits, time passes up to the deadline it waits for.
-/
namespace NodeBus.EventLoop

def connect (loop : EventLoop) (listener stream : Nat) : EventLoop :=
  { loop with
    waiting := fun other =>
      if other = listener then loop.waiting listener ++ [stream] else loop.waiting other }

def clientDoes (loop : EventLoop) (stream : Nat) (change : Stream → Stream) : EventLoop :=
  loop.setStream stream (change (loop.streams stream))

/-- A client sends bytes. What it sends to a closed connection is lost. -/
def clientSends (loop : EventLoop) (stream : Nat) (bytes : List UInt8) : EventLoop :=
  loop.clientDoes stream fun connection =>
    if connection.closed then connection
    else { connection with incoming := connection.incoming ++ bytes }

def clientFinishes (loop : EventLoop) (stream : Nat) : EventLoop :=
  loop.clientDoes stream ({ · with finished := true })

def clientCloses (loop : EventLoop) (stream : Nat) : EventLoop :=
  loop.clientDoes stream ({ · with finished := true, deaf := true })

def clientAborts (loop : EventLoop) (stream : Nat) : EventLoop :=
  loop.clientDoes stream ({ · with reset := true })

/-- What a client hears: the bytes sent to it since it last listened, and whether the daemon has closed
the connection. -/
def clientHears (loop : EventLoop) (stream : Nat) : (List UInt8 × Bool) × EventLoop :=
  let connection := loop.streams stream
  ((connection.outgoing, connection.closed), loop.setStream stream { connection with outgoing := [] })

def request (loop : EventLoop) (control : Control) : EventLoop :=
  { loop with requests := loop.requests ++ [control] }

def onBus (loop : EventLoop) (change : Bus → Bus) : EventLoop :=
  { loop with controller := { loop.controller with bus := change loop.controller.bus } }

/-- A bound on the turns that one connection can still cause. -/
def streamLoad (loop : EventLoop) (stream : Nat) : Nat :=
  2 * (loop.streams stream).incoming.length + 4

def total {α : Type} (weight : α → Nat) : List α → Nat
  | [] => 0
  | item :: rest => weight item + total weight rest

def entryLoad (loop : EventLoop) : Endpoint → Nat
  | .bus =>
    loop.controller.bus.queue.length +
      total (fun reply => reply.items.length + 1) loop.controller.bus.script
  | .commandListener listener | .monitorListener listener =>
    total loop.streamLoad (loop.waiting listener)
  | .monitor stream => loop.streamLoad stream

/-- A bound on the turns the loop can take before it has to wait. -/
def load (loop : EventLoop) : Nat :=
  2 * loop.requests.length + total (fun entry => loop.entryLoad entry.connection) loop.watch.items +
    8

def turns : Nat → EventLoop → EventLoop
  | 0, loop => loop
  | count + 1, loop =>
    match loop.turn with
    | none => loop
    | some (_, loop) => turns count loop

/-- Runs until the loop has to wait. -/
def run (loop : EventLoop) : EventLoop := turns loop.load loop

def deadline? (loop : EventLoop) : Option Nat :=
  match loop.activity with
  | .readingLine _ deadline | .receiving _ deadline => some deadline
  | .idle | .ended _ => none

/-- Runs until a time, stopping at no more than a number of deadlines on the way. -/
def runUntil (time : Nat) : Nat → EventLoop → EventLoop
  | 0, loop => { loop with now := max loop.now time }.run
  | stops + 1, loop =>
    let loop := loop.run
    match loop.deadline? with
    | some deadline =>
      if deadline ≤ time then runUntil time stops { loop with now := max loop.now deadline }
      else { loop with now := max loop.now time }
    | none => { loop with now := max loop.now time }

/-- Lets some milliseconds pass. No two deadlines are closer than a millisecond. -/
def elapse (loop : EventLoop) (milliseconds : Nat) : EventLoop :=
  runUntil (loop.now + milliseconds) (milliseconds + 1) loop

end NodeBus.EventLoop
