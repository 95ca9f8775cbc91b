import NodeBus.Envelope.Layout
import NodeBus.HelperProgram
import NodeBus.Monitor.Line
import NodeBus.Monitor.Reply

/-!
# Serving clients

Command connections carry one envelope each way, text monitors carry lines. Both end up as operations of
the controller.
-/
namespace NodeBus.Service

def version : String := "0.9.0"

def execute (helper : Helper) (controller : Controller) : Request → Response × Controller
  | .daemonInfo => ({ status := .ok, body := .daemonInfo (.ofVersion version) }, controller)
  | .sendPacket packet =>
    let sent := controller.send packet
    ({ status := sent.outcome.status, body := .packet sent.packet }, sent.controller)
  | .scan =>
    let (outcome, found, controller) := controller.scan
    ({ status := outcome.status, body := .nodes found }, controller)
  | .statistics => ({ status := .ok, body := .statistics controller.statistics }, controller)
  | .takeStatistics =>
    let (statistics, controller) := controller.takeStatistics
    ({ status := .ok, body := .statistics statistics }, controller)
  | .helper command => ({ status := helper.run command.text }, controller)
  | .raw request =>
    match controller.raw request with
    | (.ok received, controller) => ({ status := .ok, body := .raw received }, controller)
    | (.error error, controller) => ({ status := error.status }, controller)

/-- What is left to do for a command connection once its envelope was looked at. -/
inductive Job where
  | respond (response : Response)
  /-- Run the helper and send its status. This is a task of its own, so that the helper holds nobody up. -/
  | runHelper (command : BoundedText maxHelperCommand)

/-- Looks at an envelope. Everything but the helper is carried out at once. -/
def takeUp (helper : Helper) (controller : Controller) (envelope : List UInt8) : Job × Controller :=
  match Envelope.open? Request.codec envelope with
  | some (.helper command) => (.runHelper command, controller)
  | some request =>
    let (response, controller) := execute helper controller request
    (.respond response, controller)
  | none => (.respond { status := .commandUnknown }, controller)

def Job.response (helper : Helper) : Job → Response
  | .respond response => response
  | .runHelper command => { status := helper.run command.text }

/-- Serves a command connection that delivers some bytes before it ends or its time is over. Without
a whole envelope there is no response; bytes behind the envelope are ignored. A response that does not
fit its envelope is not sent. -/
def serve (helper : Helper) (controller : Controller) (received : List UInt8) :
    Option (List UInt8) × Controller :=
  if received.length < envelopeSize then (none, controller)
  else
    let (job, controller) := takeUp helper controller (received.take envelopeSize)
    (Envelope.seal? Response.codec (job.response helper), controller)

/-- What a line from a monitor brought about: the answer, whether interrupts are announced to the
monitor from now on, and the controller. -/
structure Answered where
  reply : Monitor.Reply
  report : Bool
  controller : Controller

def answerLine (controller : Controller) (report : Bool) (line : List Char) : Answered :=
  match Monitor.parse line with
  | .ok (.call packet) =>
    let sent := controller.send packet
    match sent.outcome with
    | .ok () => { reply := Monitor.statusReply sent.packet, report, controller := sent.controller }
    | .error error =>
      { reply := Monitor.failureReply error.status, report, controller := sent.controller }
  | .ok .interruptsOn => { reply := Monitor.okReply, report := true, controller }
  | .ok .interruptsOff => { reply := Monitor.okReply, report := false, controller }
  | .error _ => { reply := Monitor.errorReply, report, controller }

end NodeBus.Service
