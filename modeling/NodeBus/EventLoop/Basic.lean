import NodeBus.EventLoop.Stream
import NodeBus.Service
import NodeBus.Text.Lossy
import NodeBus.WatchSet

/-!
# The event loop

One loop serves everything. In each turn it takes up the first thing that is ready: a control request
before all else, then the watched connections in their order, the bus first. It finishes with that one
before it looks at the others again, also while it waits for the rest of a line or of an envelope; these
waits have a deadline. A turn tells what it did.

Two failures are no turns of their own. An accept that fails is noted in the log and changes nothing: the
listener is looked at again like everything else. A write to a monitor that makes no room for it is given up
after a second, and the monitor is dropped; apart from that second it fares like a write to a connection that
the client has reset.
-/
namespace NodeBus

/-- How long the loop waits for the rest of a monitor's line, in milliseconds. -/
def lineTimeout : Nat := 1000

/-- How long the loop waits for the rest of a request envelope, in milliseconds. -/
def commandTimeout : Nat := 5000

inductive Control where
  | reload
  | shutdown
  deriving DecidableEq, Repr

/-- Of two requests, a shutdown is not undone by a reload. -/
def Control.beats (earlier : Option Control) (later : Control) : Control :=
  match earlier with
  | some .shutdown => .shutdown
  | _ => later

/-- What a watch entry stands for. Listeners and client connections go by numbers. -/
inductive Endpoint where
  | bus
  | commandListener (listener : Nat)
  | monitorListener (listener : Nat)
  | monitor (stream : Nat)
  deriving DecidableEq, Repr

inductive Activity where
  | idle
  | readingLine (index : Nat) (deadline : Nat)
  | receiving (stream : Nat) (deadline : Nat)
  | ended (exit : Control)
  deriving DecidableEq, Repr

inductive Deed where
  | ended (exit : Control)
  | requested (control : Control)
  | busFailed
  | burst (interrupt : Option Interrupt)
  | commandAccepted (stream : Nat)
  | commandServed (stream : Nat) (received : List UInt8)
  | monitorAccepted (stream : Nat)
  | monitorRefused (stream : Nat)
  | lineBegun (stream : Nat)
  | line (stream : Nat) (bytes : List UInt8)
  | monitorDropped (stream : Nat)
  | abandoned
  deriving DecidableEq, Repr

/-- The loop, everything it owns, and the connections of its clients. -/
structure EventLoop where
  controller : Controller
  helper : Helper
  watch : WatchSet Endpoint
  /-- Control requests not yet received, oldest first. -/
  requests : List Control := []
  pending : Option Control := none
  /-- The next time the bus is found ready, its port has failed. -/
  busFails : Bool := false
  /-- The connections waiting to be accepted by each listener, oldest first. -/
  waiting : Nat → List Nat := fun _ => []
  streams : Nat → Stream := fun _ => {}
  /-- The time in milliseconds. -/
  now : Nat := 0
  activity : Activity := .idle

namespace EventLoop

/-- A loop that watches the bus and then the listeners in the order given. A listener that finds no
room is not watched. -/
def start (controller : Controller) (helper : Helper) (listeners : List (Kind × Endpoint)) :
    EventLoop where
  controller
  helper
  watch := ((Kind.serial, Endpoint.bus) :: listeners).foldl
    (fun watch (kind, endpoint) => (watch.add? kind endpoint).getD watch) Bounded.empty

def setStream (loop : EventLoop) (stream : Nat) (value : Stream) : EventLoop :=
  { loop with streams := fun other => if other = stream then value else loop.streams other }

def accept (loop : EventLoop) (listener : Nat) : EventLoop :=
  { loop with
    waiting := fun other =>
      if other = listener then (loop.waiting listener).tail else loop.waiting other }

def busReady (bus : Bus) : Bool :=
  match bus.queue with
  | [] => false
  | arrival :: _ => arrival.time ≤ bus.now

def isReady (loop : EventLoop) : Endpoint → Bool
  | .bus => busReady loop.controller.bus
  | .commandListener listener | .monitorListener listener => !(loop.waiting listener).isEmpty
  | .monitor stream => (loop.streams stream).isReady

def firstReady (loop : EventLoop) : Option Nat :=
  loop.watch.items.findIdx? fun entry => loop.isReady entry.connection

/-- Removes the monitor at an index and closes its connection. -/
def dropMonitor (loop : EventLoop) (index : Nat) : EventLoop :=
  match WatchSet.remove? loop.watch index with
  | some (⟨_, .monitor stream, _⟩, watch) =>
    { loop with watch }.setStream stream (loop.streams stream).close
  | some (_, watch) => { loop with watch }
  | none => loop

/-- Sends a notice to the monitors among some entries, of which the first stands at `index`, that want
to hear it. Gives the indices of those that could not be written to. -/
def announce (notice : List UInt8) (loop : EventLoop) (index : Nat) :
    List (WatchEntry Endpoint) → List Nat × EventLoop
  | [] => ([], loop)
  | entry :: rest =>
    match entry with
    | ⟨_, .monitor stream, true⟩ =>
      match (loop.streams stream).write? notice with
      | some written => announce notice (loop.setStream stream written) (index + 1) rest
      | none =>
        let (dead, loop) := announce notice loop (index + 1) rest
        (index :: dead, loop)
    | _ => announce notice loop (index + 1) rest

def replyBytes (reply : Monitor.Reply) : List UInt8 := reply.text.toByteArray.data.toList

/-- Services the bus, and announces the interrupt it raised. Monitors that can not be written to are
dropped, the last one first so that the indices stay valid. -/
def serviceBus (loop : EventLoop) : Option Interrupt × EventLoop :=
  match loop.controller.serviceInterrupt with
  | (none, controller) => (none, { loop with controller })
  | (some interrupt, controller) =>
    let (dead, loop) :=
      announce (replyBytes (Monitor.notice interrupt)) { loop with controller } 0 loop.watch.items
    (some interrupt, dead.reverse.foldl dropMonitor loop)

/-- Enters a newly accepted monitor, or closes it when the watch set is full. -/
def addMonitor (loop : EventLoop) (stream : Nat) : Deed × EventLoop :=
  match WatchSet.add? loop.watch .connectedText (.monitor stream) with
  | some watch => (.monitorAccepted stream, { loop with watch })
  | none => (.monitorRefused stream, loop.setStream stream (loop.streams stream).close)

/-- Serves the connection whose envelope, or as much of it as there will be, has come in. -/
def serveCommand (loop : EventLoop) (stream : Nat) : EventLoop :=
  let connection := loop.streams stream
  match Service.serve loop.helper loop.controller connection.incoming with
  | (none, controller) => { loop with controller }.setStream stream connection.close
  | (some response, controller) =>
    { loop with controller }.setStream stream
      ((connection.write? response).getD connection).close

def answerLine (loop : EventLoop) (index stream : Nat) (line rest : List UInt8) : EventLoop :=
  match loop.watch.items[index]? with
  | none => loop
  | some entry =>
    let answered := Service.answerLine loop.controller entry.report (Text.decodeLossy line)
    let connection := { loop.streams stream with incoming := rest }
    let loop :=
      { loop with
        controller := answered.controller
        watch := loop.watch.modify index fun entry => { entry with report := answered.report } }
    match connection.write? (replyBytes answered.reply) with
    | some written => loop.setStream stream written
    | none => (loop.setStream stream connection).dropMonitor index

/-- Goes on reading the line of the monitor at an index. A line that is not whole yet is answered as
it is when the client has finished or the deadline has passed. -/
def readLine (loop : EventLoop) (index deadline : Nat) : Option (Deed × EventLoop) :=
  match loop.watch.items[index]? with
  | some ⟨_, .monitor stream, _⟩ =>
    let connection := loop.streams stream
    let (line, rest) := cutLine maxLine connection.incoming
    let ends := connection.finished || decide (deadline ≤ loop.now)
    if isWholeLine line || (ends && !connection.reset && !line.isEmpty) then
      some (.line stream line, { loop with activity := .idle }.answerLine index stream line rest)
    else if ends || connection.reset then
      some (.monitorDropped stream, { loop with activity := .idle }.dropMonitor index)
    else none
  | _ => some (.abandoned, { loop with activity := .idle })

def receive (loop : EventLoop) (stream deadline : Nat) : Option (Deed × EventLoop) :=
  let connection := loop.streams stream
  if envelopeSize ≤ connection.incoming.length || connection.finished || connection.reset
      || deadline ≤ loop.now then
    some (.commandServed stream connection.incoming,
      { loop with activity := .idle }.serveCommand stream)
  else none

def takeUp (loop : EventLoop) (index : Nat) : Endpoint → Deed × EventLoop
  | .bus =>
    if loop.busFails then
      (.busFailed, { loop with busFails := false, pending := some (.beats loop.pending .reload) })
    else
      let (interrupt, loop) := loop.serviceBus
      (.burst interrupt, loop)
  | .commandListener listener =>
    match (loop.waiting listener).head? with
    | none => (.abandoned, loop)
    | some stream =>
      (.commandAccepted stream,
        { loop.accept listener with activity := .receiving stream (loop.now + commandTimeout) })
  | .monitorListener listener =>
    match (loop.waiting listener).head? with
    | none => (.abandoned, loop)
    | some stream => (loop.accept listener).addMonitor stream
  | .monitor stream =>
    if (loop.streams stream).incoming.isEmpty then
      (.monitorDropped stream, loop.dropMonitor index)
    else
      (.lineBegun stream, { loop with activity := .readingLine index (loop.now + lineTimeout) })

/-- One turn: what it did, and the loop afterwards. There is none while the loop has to wait. -/
def turn (loop : EventLoop) : Option (Deed × EventLoop) :=
  match loop.activity with
  | .ended _ => none
  | .readingLine index deadline => loop.readLine index deadline
  | .receiving stream deadline => loop.receive stream deadline
  | .idle =>
    match loop.pending with
    | some exit => some (.ended exit, { loop with pending := none, activity := .ended exit })
    | none =>
      match loop.requests with
      | control :: requests =>
        some (.requested control,
          { loop with requests, pending := some (.beats loop.pending control) })
      | [] =>
        match loop.firstReady with
        | none => none
        | some index => (loop.watch.items[index]?).map fun entry => loop.takeUp index entry.connection

def exit? (loop : EventLoop) : Option Control :=
  match loop.activity with
  | .ended exit => some exit
  | _ => none

def monitors (loop : EventLoop) : Nat := WatchSet.count loop.watch .connectedText

end EventLoop

end NodeBus
