import Mathlib
import NodeBus.Proofs.ReceiveBound
import NodeBus.Proofs.Session

/-!
# What an exchange hands to the port

However an exchange ends, it hands exactly one frame to the port: one reply of the script is used up, and
the frame is on record if the port took it (`Transaction.written_sent`); so do the exchanges of an operation,
one after another (`Consecutive.written_eq`). Which frame that is depends on the
address, command and parameters of the packet and on what is known of the node, and on nothing else. The
node table and the settings stay as they were.
-/
namespace NodeBus

namespace Exchange

/-- Awaiting an answer neither uses up replies nor writes. -/
theorem answer_port (timing : Timing) (variant : Variant) (bus : Bus) (packet : Packet) (budget : Nat) :
    (answer timing variant bus packet budget).bus.script = bus.script ∧
      (answer timing variant bus packet budget).bus.written = bus.written := by
  have received : (receive bus budget).2.script = bus.script ∧
      (receive bus budget).2.written = bus.written := by
    unfold receive Bus.listen
    rcases listenTo budget hear {} bus.now bus.queue with ⟨_ | _, _, _⟩ <;> exact ⟨rfl, rfl⟩
  rw [← received.1, ← received.2]
  unfold answer
  rcases receive bus budget with ⟨error | body, after⟩
  · exact ⟨rfl, rfl⟩
  · dsimp only
    cases judge variant body with
    | error error => exact ⟨rfl, rfl⟩
    | ok status =>
      dsimp only [settle]
      split <;> exact ⟨rfl, rfl⟩

end Exchange

namespace Transaction
open Exchange

/-- The frame that the request goes out as. -/
def frame (transaction : Transaction) : List UInt8 :=
  Frame.commandFrame transaction.variant transaction.packet

/-- Once its frame is written, an exchange neither uses up replies nor writes. -/
theorem port_sent (transaction : Transaction) :
    transaction.sent.controller.bus.script = transaction.written.script ∧
      transaction.sent.controller.bus.written = transaction.written.written := by
  obtain ⟨controller, packet, budget⟩ := transaction
  let exchanged := run controller.nodes controller.settings.timing controller.bus packet budget
  change exchanged.bus.script = _ ∧ exchanged.bus.written = _
  by_cases taken : controller.Takes
  case neg =>
    have run : exchanged = _ := run_untaken _ _ controller.bus packet budget taken
    rw [run]
    exact ⟨rfl, rfl⟩
  cases cast : packet.isBroadcast with
  | true =>
    have run : exchanged = _ := run_taken _ _ controller.bus packet budget taken
    simp only [cast, if_true] at run
    rw [run]
    exact ⟨rfl, rfl⟩
  | false =>
    have run : exchanged = _ := run_unicast _ _ controller.bus packet budget taken cast
    rw [run]
    exact answer_port _ _ _ _ _

/-- An exchange uses up one reply. -/
theorem script_sent (transaction : Transaction) :
    transaction.sent.controller.bus.script = transaction.controller.bus.script.tail := by
  rw [transaction.port_sent.1]
  exact Bus.script_write _ _ _

/-- What the exchange leaves on record: its frame, unless the port refused it. -/
def record (transaction : Transaction) : List (List UInt8) :=
  if transaction.controller.Takes then [transaction.frame] else []

theorem written_sent (transaction : Transaction) :
    transaction.sent.controller.bus.written =
      transaction.controller.bus.written ++ transaction.record := by
  rw [transaction.port_sent.2]
  exact Bus.written_write _ _ _

/-- The frame is that of the address, command and parameters, in the variant the node was last heard
in; what status bytes the packet holds does not matter. -/
theorem frame_congr {one other : Transaction} (nodes : one.controller.nodes = other.controller.nodes)
    (packet : one.packet.emptied = other.packet.emptied) : one.frame = other.frame := by
  have address : one.packet.address = other.packet.address := (congrArg Packet.address packet :)
  have command : one.packet.command = other.packet.command := (congrArg Packet.command packet :)
  have params : one.packet.params = other.packet.params := (congrArg Packet.params packet :)
  simp only [frame, Frame.commandFrame, Frame.commandFront, variant, Controller.variantOf, nodes, address,
    command, params]

end Transaction

namespace Consecutive

variable {before after : Controller} {transactions : List Transaction}

/-- Exchanges use up one reply each. -/
theorem script_eq (consecutive : Consecutive before transactions after) :
    after.bus.script = before.bus.script.drop transactions.length := by
  induction transactions generalizing before with
  | nil => simp [consecutive.1]
  | cons transaction rest ih =>
    obtain ⟨⟨same, -, -⟩, later⟩ := consecutive
    rw [ih later, transaction.script_sent, ← same, List.drop_tail, List.length_cons]

theorem written_eq (consecutive : Consecutive before transactions after) :
    after.bus.written = before.bus.written ++ transactions.flatMap Transaction.record := by
  induction transactions generalizing before with
  | nil => simp [consecutive.1]
  | cons transaction rest ih =>
    obtain ⟨⟨same, -, -⟩, later⟩ := consecutive
    rw [ih later, transaction.written_sent, ← same, List.flatMap_cons, List.append_assoc]

/-- Exchanges learn nothing about nodes. -/
theorem nodes_eq (consecutive : Consecutive before transactions after) :
    after.nodes = before.nodes ∧ ∀ transaction ∈ transactions, transaction.controller.nodes = before.nodes := by
  induction transactions generalizing before with
  | nil => exact ⟨consecutive.2.1.symm, by simp⟩
  | cons transaction rest ih =>
    obtain ⟨⟨-, same, -⟩, later⟩ := consecutive
    obtain ⟨after, others⟩ := ih later
    have kept : transaction.sent.controller.nodes = before.nodes := same.symm
    refine ⟨after.trans kept, ?_⟩
    intro member isMember
    rcases List.mem_cons.mp isMember with rfl | behind
    · exact same.symm
    · exact (others member behind).trans kept

theorem settings_eq (consecutive : Consecutive before transactions after) :
    after.settings = before.settings := by
  induction transactions generalizing before with
  | nil => exact consecutive.2.2.symm
  | cons transaction rest ih => exact (ih consecutive.2).trans consecutive.1.2.2.symm

end Consecutive

end NodeBus
