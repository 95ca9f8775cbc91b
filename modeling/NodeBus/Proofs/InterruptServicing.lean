import Mathlib
import NodeBus.Proofs.InterruptRecognition
import NodeBus.Proofs.NodeCapabilities
import NodeBus.Proofs.QueueGrowth
import NodeBus.Proofs.Retries

/-!
# How a request for attention is serviced

A request that is accepted is noted in the node table first (`Controller.noting`), so that the variant it was
heard in already holds for the query about its reason. That query is sent like any other packet, with its
retries; the law of servicing (`requests_serviced`) is the law of that send, together with what the status
bytes of the last answer come to as a reason.
-/
namespace NodeBus

/-- The bytes a node gave as its reason. -/
def Interrupt.given (interrupt : Interrupt) : List UInt8 :=
  [interrupt.reason.1, interrupt.reason.2.1, interrupt.reason.2.2]

/-- A reason has three bytes, and zeros where the status has none. -/
theorem Interrupt.given_ofStatus (address : UInt8) (status : List UInt8) :
    (ofStatus address status).given = (status ++ [0, 0, 0]).take 3 := by
  rcases status with _ | ⟨first, _ | ⟨second, _ | ⟨third, rest⟩⟩⟩
  · rfl
  · rfl
  · rfl
  · rfl

namespace Controller

/-- The controller once a request is noted: the burst that held it is read, and its node is known by it. -/
def noting (controller : Controller) (request : InterruptRequest) : Controller :=
  { controller with
    bus := controller.collected.2
    nodes.node := fun address =>
      if address = request.address then { variant := request.variant, interrupter := true }
      else controller.nodes.node address }

/-- What servicing an accepted request comes to, by the attempts that were repeated and the last one. -/
structure ServiceLaw (controller : Controller) (request : InterruptRequest) (earlier : List Transaction)
    (last : Transaction) (interrupt : Interrupt) : Prop where
  /-- Nothing is written before the request is noted. -/
  unwritten : (controller.noting request).bus.script = controller.bus.script ∧
    (controller.noting request).bus.written = controller.bus.written
  /-- The first attempt starts from there, each other one from what the one before it left. -/
  consecutive : Consecutive (controller.noting request) (earlier ++ [last]) controller.serviceInterrupt.2
  /-- What is noted governs every attempt, and is all that is learned. -/
  nodes : controller.serviceInterrupt.2.nodes = (controller.noting request).nodes ∧
    ∀ attempt ∈ earlier ++ [last], attempt.controller.nodes = (controller.noting request).nodes
  bounded : (earlier ++ [last]).length ≤ controller.settings.retries.toNat + 1
  asked : ∀ attempt ∈ earlier ++ [last], attempt.packet.address = request.address ∧
    attempt.packet.command = 0x03 ∧ attempt.packet.params.items = [0, 0, 0]
  frame : ∀ attempt ∈ earlier ++ [last], attempt.frame =
    if request.address = 0xFF then onWire 0x01 .crc8 attempt.packet
    else match request.variant with
      | .crc8 => onWire 0x01 .crc8 attempt.packet
      | .crc16 => onWire 0x05 .crc16 attempt.packet
  script : controller.serviceInterrupt.2.bus.script =
    controller.bus.script.drop (earlier ++ [last]).length
  written : controller.serviceInterrupt.2.bus.written = controller.bus.written ++
    earlier.map Transaction.frame ++ last.record
  raised : controller.serviceInterrupt.1 = some interrupt
  address : interrupt.address = request.address
  /-- The reason is the beginning of the status in the answer that was accepted last. -/
  reason : request.address ≠ 0xFF → last.sent.outcome = .ok () → ∃ address command status,
    last.Accepts address command status ∧ interrupt.given = (status ++ [0, 0, 0]).take 3
  unexplained : request.address = 0xFF ∨ last.sent.outcome ≠ .ok () → interrupt.given = [0, 0, 0]
  /-- Everyone is asked once, and no answer is read. -/
  everyone : request.address = 0xFF →
    earlier = [] ∧ (controller.noting request).bus.Grows controller.serviceInterrupt.2.bus
  counted : ∀ outcome, controller.serviceInterrupt.2.statistics.counter outcome =
    controller.statistics.counter outcome +
      UInt32.ofNat ((earlier ++ [last]).countP fun attempt => attempt.sent.outcome = outcome)
  spurious : controller.serviceInterrupt.2.statistics.spuriousPackets =
    controller.statistics.spuriousPackets
  settings : controller.serviceInterrupt.2.settings = controller.settings

/-- An accepted request is noted, and its node is asked for the reason. -/
theorem serviceInterrupt_of_accepted (controller : Controller) (request : InterruptRequest)
    (accepted : controller.collected.1 = some request) :
    let sent := (controller.noting request).send (interruptQuery request.address)
    controller.transactions .serviceInterrupt =
        (controller.noting request).sendAttempts (interruptQuery request.address) ∧
      controller.serviceInterrupt = (some (.ofStatus request.address sent.reason), sent.controller) := by
  have prepared : controller.prepared .serviceInterrupt = controller.noting request := by
    have noted : controller.accepted .serviceInterrupt = some request := accepted
    rw [Controller.prepared, noted]
    rfl
  rcases controller.serviceInterrupt_cases with ⟨rejected, -⟩ | ⟨other, some, made, result⟩
  · rw [Controller.accepted, ← collected, accepted] at rejected
    cases rejected
  · rw [Controller.accepted, ← collected, accepted] at some
    obtain rfl := Option.some.inj some
    rw [prepared] at made result
    exact ⟨made, result⟩

/-! ### The query about the reason -/

/-- Attempts differ in their status at most, so all of them are the query. -/
theorem asked_of_emptied {attempt : Transaction} {address : UInt8}
    (same : attempt.packet.emptied = (interruptQuery address).emptied) :
    attempt.packet.address = address ∧ attempt.packet.command = 0x03 ∧
      attempt.packet.params.items = [0, 0, 0] := by
  have asked : attempt.packet.address = address := congrArg Packet.address same
  have command : attempt.packet.command = 0x03 := congrArg Packet.command same
  have params : attempt.packet.params.items = [0, 0, 0] :=
    congrArg (fun packet => packet.params.items) same
  exact ⟨asked, command, params⟩

/-- An attempt that knows what was noted goes out in the variant of the request, unless it goes to all. -/
theorem frame_of_noted (controller : Controller) (request : InterruptRequest) {attempt : Transaction}
    (known : attempt.controller.nodes = (controller.noting request).nodes)
    (asked : attempt.packet.address = request.address) :
    attempt.frame =
      if request.address = 0xFF then onWire 0x01 .crc8 attempt.packet
      else match request.variant with
        | .crc8 => onWire 0x01 .crc8 attempt.packet
        | .crc16 => onWire 0x05 .crc16 attempt.packet := by
  have variant : (attempt.controller.nodes.node request.address).variant = request.variant := by
    rw [known]
    exact congrArg Node.variant (if_pos rfl)
  have frame := frame_eq_onWire attempt
  rwa [asked, variant] at frame

section Reasons

variable {retries : Nat} {controller : Controller} {packet : Packet} {earlier : List Transaction}
  {last : Transaction} {result : Sent}

/-- The reason is what the last attempt was told. -/
theorem Persists.reason_eq (run : Persists retries controller packet earlier last result)
    (success : last.sent.outcome = .ok ()) : result.reason = last.sent.packet.status.items := by
  obtain ⟨outcome, handedBack, -⟩ := run.result_eq
  rw [Sent.reason_of_ok result (outcome.trans success), handedBack]

theorem Persists.reason_of_failed (run : Persists retries controller packet earlier last result)
    (failed : last.sent.outcome ≠ .ok ()) : result.reason = [] := by
  obtain ⟨outcome, -, -⟩ := run.result_eq
  apply Sent.reason_eq_nil
  left
  rwa [outcome]

/-- Asking everyone brings no reason, even when it succeeds. -/
theorem Persists.reason_of_broadcast (run : Persists retries controller packet earlier last result)
    (everyone : packet.isBroadcast = true) (nothing : packet.status.items = []) : result.reason = [] := by
  obtain ⟨-, same⟩ := run.broadcast everyone
  apply Sent.reason_eq_nil
  right
  rw [same, nothing]

end Reasons

/-- **An accepted request is noted and asked about.** -/
theorem requests_serviced (controller : Controller) (request : InterruptRequest)
    (accepted : controller.collected.1 = some request) :
    ∃ earlier last interrupt, controller.transactions .serviceInterrupt = earlier ++ [last] ∧
      ServiceLaw controller request earlier last interrupt := by
  let noted := controller.noting request
  let query := interruptQuery request.address
  obtain ⟨made, serviced⟩ := controller.serviceInterrupt_of_accepted request accepted
  have next : controller.serviceInterrupt.2 = (noted.send query).controller := congrArg Prod.snd serviced
  obtain ⟨earlier, last, split, run⟩ := persists noted.settings.retries.toNat noted query
  have consecutive := consecutive_attempts noted.settings.retries.toNat noted query
  rw [split] at consecutive
  obtain ⟨after, known⟩ := consecutive.nodes_eq
  have port := collectBurst_port controller.bus controller.settings.timing.interruptGap
  have asked : ∀ attempt ∈ earlier ++ [last], attempt.packet.address = request.address ∧
      attempt.packet.command = 0x03 ∧ attempt.packet.params.items = [0, 0, 0] := by
    intro attempt member
    rw [← split] at member
    exact asked_of_emptied (attempts_packet _ noted query attempt member)
  have isBroadcast : query.isBroadcast = true ↔ request.address = 0xFF := beq_iff_eq
  refine ⟨earlier, last, .ofStatus request.address (noted.send query).reason, made.trans split, ?_⟩
  exact {
    unwritten := port
    consecutive := next ▸ consecutive
    nodes := ⟨next ▸ after, known⟩
    bounded := by
      have bound : earlier.length ≤ controller.settings.retries.toNat := run.length_le
      rw [List.length_append, List.length_singleton]
      omega
    asked
    frame := fun attempt member =>
      frame_of_noted controller request (known attempt member) (asked attempt member).1
    script := by
      rw [next, ← port.1]
      exact consecutive.script_eq
    written := by
      rw [next, ← port.2, List.append_assoc, ← run.record_eq]
      exact consecutive.written_eq
    raised := congrArg Prod.fst serviced
    address := rfl
    reason := by
      intro someone success
      have unicast : last.packet.isBroadcast = false := by
        rw [Packet.isBroadcast, (asked last (by simp)).1, beq_eq_false_iff_ne]
        exact someone
      have told : (noted.send query).reason = last.sent.packet.status.items := run.reason_eq success
      obtain ⟨address, command, accepts⟩ := last.accepts_of_ok unicast success
      refine ⟨address, command, _, accepts, ?_⟩
      rw [Interrupt.given_ofStatus, told]
    unexplained := by
      intro without
      have untold : (noted.send query).reason = [] := by
        rcases without with broadcast | failed
        · exact run.reason_of_broadcast (isBroadcast.mpr broadcast) rfl
        · exact run.reason_of_failed failed
      rw [Interrupt.given_ofStatus, untold]
      rfl
    everyone := by
      intro broadcast
      obtain ⟨once, -⟩ := run.broadcast (isBroadcast.mpr broadcast)
      refine ⟨once, next ▸ consecutive.grows ?_⟩
      intro attempt member
      refine attempt.grows_of_broadcast ?_
      rw [Packet.isBroadcast, (asked attempt member).1, broadcast]
      rfl
    counted := by
      rw [next]
      exact run.counter_eq
    spurious := by
      rw [next]
      exact run.spurious_eq
    settings := next ▸ consecutive.settings_eq }

/-- An acknowledgement with two status bytes. -/
def briefAnswer : Reply where
  bytes :=
    Escape.stx :: Escape.escaped (Exchange.answerBody .crc16 0xC5 0x05 0x03 [0x11, 0x22]) ++ [Escape.etx]

/-- A node asked for attention in the long checksum, and answers no query but the second. -/
def hesitantNode : Controller where
  bus :=
    { queue := arrivals 0 0 0 ((InterruptRequest.frame ⟨0x05, .crc16⟩).map .byte)
      script := [{}, briefAnswer] }

/-- The query is repeated once, and the byte that the status lacks is taken for zero. -/
theorem hesitantNode_serviced :
    hesitantNode.collected.1 = some ⟨0x05, .crc16⟩ ∧
      hesitantNode.serviceInterrupt.1 = some { address := 0x05, reason := (0x11, 0x22, 0x00) } ∧
      ∃ earlier last interrupt, hesitantNode.transactions .serviceInterrupt = earlier ++ [last] ∧
        ServiceLaw hesitantNode ⟨0x05, .crc16⟩ earlier last interrupt := by
  have accepted : hesitantNode.collected.1 = some ⟨0x05, .crc16⟩ := by
    decide +kernel
  have raised : hesitantNode.serviceInterrupt.1 = some { address := 0x05, reason := (0x11, 0x22, 0x00) } := by
    decide +kernel
  exact ⟨accepted, raised, requests_serviced hesitantNode _ accepted⟩

end Controller

end NodeBus
