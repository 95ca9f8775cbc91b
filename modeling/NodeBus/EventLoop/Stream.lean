/-!
# Client connections

A connection as both of its ends see it: what the client sent and the daemon has not read yet, what the
daemon sent and the client has not heard yet, and which end has closed it how.
-/
namespace NodeBus

structure Stream where
  /-- Sent by the client and not read yet. -/
  incoming : List UInt8 := []
  /-- The client sends nothing more. -/
  finished : Bool := false
  /-- The client listens no more: what is written next is answered by a reset. -/
  deaf : Bool := false
  /-- The connection was reset: once everything that arrived is read, reading and writing fail. -/
  reset : Bool := false
  outgoing : List UInt8 := []
  closed : Bool := false
  deriving DecidableEq, Repr

namespace Stream

def isReady (stream : Stream) : Bool := !stream.incoming.isEmpty || stream.finished || stream.reset

/-- The connection after the daemon wrote to it, unless writing failed. How much the system holds for a client that
does not listen is left open: when there is no room any more, the client counts as one that has reset the
connection. -/
def write? (stream : Stream) (bytes : List UInt8) : Option Stream :=
  if stream.reset then none
  else if stream.deaf then some { stream with reset := true }
  else some { stream with outgoing := stream.outgoing ++ bytes }

def close (stream : Stream) : Stream := { stream with closed := true, incoming := [] }

end Stream

/-- The longest line read at once from a monitor, its newline included. -/
def maxLine : Nat := 80

def newline : UInt8 := 10

/-- Cuts the first line off some bytes: up to and including the first newline, but no more than `limit`
bytes. -/
def cutLine : Nat → List UInt8 → List UInt8 × List UInt8
  | 0, bytes => ([], bytes)
  | _ + 1, [] => ([], [])
  | limit + 1, byte :: rest =>
    if byte = newline then ([byte], rest)
    else
      let (line, rest) := cutLine limit rest
      (byte :: line, rest)

/-- Is nothing missing from a line that was cut off? -/
def isWholeLine (line : List UInt8) : Bool :=
  line.length == maxLine || line.getLast? == some newline

end NodeBus
