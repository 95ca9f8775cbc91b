import Mathlib
import NodeBus.Proofs.Requests
import NodeBus.Service

/-!
# What leaves the front of the queue alone

Only a reader takes from the queue. Time, what nodes say on their own, writes, and so all exchanges that
await no answer, at most add to its end (`Bus.Grows`), and what could be heard before can still be heard
(`Bus.Grows.audible`). `Service.execute_undisturbed` and `Service.answerLine_undisturbed` say which requests
of clients are of that kind.
-/
namespace NodeBus

/-- What can be heard is not affected by time that passes or by what arrives behind it. -/
theorem audible_prefix_of_later (budget : Nat) {now later : Nat} (passed : now ≤ later)
    (queue more : List Arrival) : audible budget now queue <+: audible budget later (queue ++ more) := by
  induction queue generalizing now later with
  | nil => exact List.nil_prefix
  | cons arrival rest ih =>
    obtain ⟨item, time⟩ := arrival
    cases item with
    | fault => exact List.nil_prefix
    | byte value =>
      by_cases inTime : time ≤ now + budget
      · have still : time ≤ later + budget := by omega
        simp only [List.cons_append, audible, inTime, still, if_true]
        exact List.cons_prefix_cons.mpr ⟨rfl, ih (by omega)⟩
      · simp only [audible, inTime, if_false]
        exact List.nil_prefix

namespace Bus

/-- Time has passed, and more may have been queued. -/
def Grows (bus after : Bus) : Prop := bus.now ≤ after.now ∧ bus.queue <+: after.queue

namespace Grows

theorem refl (bus : Bus) : bus.Grows bus := ⟨Nat.le_refl _, List.prefix_rfl⟩

theorem trans {bus between after : Bus} (first : bus.Grows between) (second : between.Grows after) :
    bus.Grows after :=
  ⟨first.1.trans second.1, first.2.trans second.2⟩

theorem audible {bus after : Bus} (grows : bus.Grows after) (budget : Nat) :
    bus.audible budget <+: after.audible budget := by
  obtain ⟨passed, more, queue⟩ := grows
  rw [Bus.audible, Bus.audible, ← queue]
  exact audible_prefix_of_later budget passed _ more

end Grows

theorem grows_pause (bus : Bus) (milliseconds : Nat) : bus.Grows (bus.pause milliseconds) :=
  ⟨Nat.le_add_right _ _, List.prefix_rfl⟩

theorem grows_deliver (bus : Bus) (reply : Reply) : bus.Grows (bus.deliver reply) :=
  ⟨Nat.le_refl _, List.prefix_append _ _⟩

theorem grows_write (bus : Bus) (budget : Nat) (data : List UInt8) :
    bus.Grows (bus.write budget data).2 := by
  by_cases taken : bus.Takes budget
  · obtain ⟨now, queue⟩ := bus.queue_write budget data taken
    exact ⟨by omega, queue ▸ List.prefix_append _ _⟩
  · obtain ⟨milliseconds, written⟩ := bus.write_untaken budget data taken
    rw [written]
    exact ⟨Nat.le_add_right _ _, List.prefix_rfl⟩

end Bus

/-- A broadcast awaits no answer. -/
theorem Transaction.grows_of_broadcast (transaction : Transaction)
    (everyone : transaction.packet.isBroadcast = true) :
    transaction.controller.bus.Grows transaction.sent.controller.bus := by
  obtain ⟨controller, packet, budget⟩ := transaction
  let exchanged := Exchange.run controller.nodes controller.settings.timing controller.bus packet budget
  change controller.bus.Grows exchanged.bus
  by_cases taken : controller.Takes
  · have run : exchanged = _ := Exchange.run_taken _ _ controller.bus packet budget taken
    rw [if_pos everyone] at run
    rw [run]
    exact (Bus.grows_write _ _ _).trans (Bus.grows_pause _ _)
  · have run : exchanged = _ := Exchange.run_untaken _ _ controller.bus packet budget taken
    rw [run]
    exact Bus.grows_write _ _ _

theorem Consecutive.grows {before after : Controller} {transactions : List Transaction}
    (consecutive : Consecutive before transactions after)
    (grow : ∀ transaction ∈ transactions,
      transaction.controller.bus.Grows transaction.sent.controller.bus) : before.bus.Grows after.bus := by
  induction transactions generalizing before with
  | nil =>
    have same : before.bus = after.bus := consecutive.1
    rw [same]
    exact .refl _
  | cons transaction rest ih =>
    obtain ⟨first, others⟩ := List.forall_mem_cons.mp grow
    have same : before.bus = transaction.controller.bus := consecutive.1.1
    rw [same]
    exact first.trans (ih consecutive.2 others)

namespace Controller

/-- The queue has at most grown, and the settings are the same. -/
def Undisturbed (controller after : Controller) : Prop :=
  controller.bus.Grows after.bus ∧ after.settings = controller.settings

theorem Undisturbed.refl (controller : Controller) : controller.Undisturbed controller :=
  ⟨.refl _, rfl⟩

theorem send_undisturbed (controller : Controller) (packet : Packet)
    (everyone : packet.isBroadcast = true) :
    controller.Undisturbed (controller.send packet).controller := by
  have consecutive := consecutive_attempts controller.settings.retries.toNat controller packet
  refine ⟨consecutive.grows fun attempt made => attempt.grows_of_broadcast ?_, consecutive.settings_eq⟩
  have address : attempt.packet.address = packet.address :=
    (congrArg Packet.address (attempts_packet _ _ _ attempt made) :)
  rwa [Packet.isBroadcast, address]

theorem raw_undisturbed (controller : Controller) (request : RawRequest) (noAnswer : request.expect = 0) :
    controller.Undisturbed (controller.raw request).2 := by
  have grows := controller.bus.grows_write request.txTimeout.toNat request.tx.items
  simp only [raw, noAnswer]
  split
  · exact .refl _
  · rcases written : controller.bus.write request.txTimeout.toNat request.tx.items with ⟨_ | _, bus⟩
    · rw [written] at grows
      exact ⟨grows, rfl⟩
    · rw [written] at grows
      exact ⟨grows, rfl⟩

end Controller

/-! ### Clients -/

/-- Does carrying out the request await an answer from the bus? -/
def Request.awaits : Request → Bool
  | .sendPacket packet => !packet.isBroadcast
  | .raw request => request.expect != 0
  | .scan => true
  | .daemonInfo | .statistics | .takeStatistics | .helper _ => false

/-- Does answering the line await an answer from the bus? -/
def Monitor.awaits (line : List Char) : Bool :=
  match Monitor.parse line with
  | .ok (.call packet) => !packet.isBroadcast
  | _ => false

namespace Service
open Controller

theorem execute_undisturbed (helper : Helper) (controller : Controller) (request : Request)
    (quiet : request.awaits = false) : controller.Undisturbed (execute helper controller request).2 := by
  cases request with
  | daemonInfo | statistics | takeStatistics | helper => exact ⟨.refl _, rfl⟩
  | scan => cases quiet
  | sendPacket packet =>
    rw [Request.awaits, Bool.not_eq_false'] at quiet
    exact controller.send_undisturbed packet quiet
  | raw request =>
    have noAnswer : request.expect = 0 := by simpa [Request.awaits] using quiet
    have undisturbed := controller.raw_undisturbed request noAnswer
    rw [execute]
    split
    · rename_i received after ran
      rwa [ran] at undisturbed
    · rename_i error after ran
      rwa [ran] at undisturbed

theorem answerLine_undisturbed (controller : Controller) (report : Bool) (line : List Char)
    (quiet : Monitor.awaits line = false) :
    controller.Undisturbed (answerLine controller report line).controller := by
  unfold Monitor.awaits at quiet
  unfold answerLine
  generalize Monitor.parse line = parsed at quiet ⊢
  rcases parsed with error | command
  · exact .refl _
  · cases command with
    | interruptsOn | interruptsOff => exact .refl _
    | call packet =>
      rw [Bool.not_eq_false'] at quiet
      have undisturbed := controller.send_undisturbed packet quiet
      dsimp only
      split <;> exact undisturbed

/-- Does serving the connection await an answer from the bus? -/
def awaits (received : List UInt8) : Bool :=
  if received.length < envelopeSize then false
  else
    match Envelope.open? Request.codec (received.take envelopeSize) with
    | some request => request.awaits
    | none => false

theorem serve_undisturbed (helper : Helper) (controller : Controller) (received : List UInt8)
    (quiet : awaits received = false) : controller.Undisturbed (serve helper controller received).2 := by
  unfold awaits at quiet
  unfold serve
  split at quiet
  case isTrue short =>
    rw [if_pos short]
    exact .refl _
  case isFalse whole =>
    rw [if_neg whole, takeUp]
    generalize Envelope.open? Request.codec (received.take envelopeSize) = opened at quiet ⊢
    cases opened with
    | none => exact .refl _
    | some request =>
      cases request with
      | helper command => exact .refl _
      | _ => exact execute_undisturbed helper controller _ quiet

end Service

end NodeBus
