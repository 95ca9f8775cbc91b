import Mathlib
import NodeBus.Proofs.Attempts
import NodeBus.Proofs.DeframingReach

/-!
# How many bytes an exchange consumes

An exchange has no limit of its own on the bytes it reads; it ends with the run of its deframer. So it
consumes as many bytes as there are setbacks among them, give or take constants of the protocol:
`received_bounded_iff` bounds every exchange by its setbacks from both sides, and `received_worst` fills the
bound for every number of setbacks. No limit covers all answers, although every byte of them comes in time
(`not_received_bounded`).
-/
namespace NodeBus

/-! ### What an exchange takes from the queue -/

namespace Exchange

/-- Awaiting an answer takes bytes from the front of the queue, as many as the deframer takes of those
that can be heard. -/
theorem receive_queue (bus : Bus) (budget : Nat) :
    ∃ read, bus.queue = read ++ (receive bus budget).2.queue ∧
      bytesOf read = (bus.audible budget).take (Deframer.run {} (bus.audible budget)).taken := by
  have spec := (listenTo_spec budget hear {} bus.now bus.queue).2
  rw [hearAll_hear] at spec
  have left : (receive bus budget).2.queue = (listenTo budget hear {} bus.now bus.queue).2.2 := by
    unfold receive Bus.listen
    rcases listenTo budget hear {} bus.now bus.queue with ⟨_ | _, _, _⟩ <;> rfl
  rw [left]
  exact spec

theorem answer_queue (timing : Timing) (variant : Variant) (bus : Bus) (packet : Packet) (budget : Nat) :
    (answer timing variant bus packet budget).bus.queue = (receive bus budget).2.queue := by
  unfold answer
  rcases receive bus budget with ⟨error | body, after⟩
  · rfl
  · dsimp only
    cases judge variant body with
    | error error => rfl
    | ok status =>
      dsimp only [settle]
      split <;> rfl

end Exchange

namespace Transaction
open Exchange

/-- The bus once the request is written, or was refused. -/
def written (transaction : Transaction) : Bus :=
  (transaction.controller.bus.write transaction.controller.settings.timing.write
    (Frame.commandFrame transaction.variant transaction.packet)).2

/-- What is queued at the port then. -/
def queued (transaction : Transaction) : List Arrival := transaction.written.queue

/-- The bytes that the exchange takes from the queue. -/
def received (transaction : Transaction) : List UInt8 :=
  bytesOf (transaction.queued.take
    (transaction.queued.length - transaction.sent.controller.bus.queue.length))

/-- How many of the received bytes set the frame back. -/
def setbacks (transaction : Transaction) : Nat := Deframer.setbacks {} transaction.received

/-- An exchange leaves the end of the queue alone. From its front it takes what the deframer takes of the
bytes it can hear, or nothing when it awaits no answer. -/
theorem queued_split (transaction : Transaction) :
    ∃ read, transaction.queued = read ++ transaction.sent.controller.bus.queue ∧
      bytesOf read =
        if transaction.controller.Takes ∧ transaction.packet.isBroadcast = false then
          transaction.heard.take (Deframer.run {} transaction.heard).taken
        else [] := by
  obtain ⟨controller, packet, budget⟩ := transaction
  by_cases sent : controller.Takes
  case neg =>
    have run := run_untaken controller.nodes controller.settings.timing controller.bus packet budget sent
    refine ⟨[], (congrArg (fun exchanged => exchanged.bus.queue) run).symm, ?_⟩
    rw [if_neg fun taken => sent taken.1]
    rfl
  cases cast : packet.isBroadcast with
  | true =>
    have run := run_taken controller.nodes controller.settings.timing controller.bus packet budget sent
    simp only [cast, if_true] at run
    refine ⟨[], (congrArg (fun exchanged => exchanged.bus.queue) run).symm, ?_⟩
    rw [if_neg fun taken => Bool.noConfusion taken.2]
    rfl
  | false =>
    have run := run_unicast controller.nodes controller.settings.timing controller.bus packet budget sent cast
    obtain ⟨read, split, bytes⟩ := receive_queue (written ⟨controller, packet, budget⟩) budget
    have left := (congrArg (fun exchanged => exchanged.bus.queue) run).trans (answer_queue ..)
    refine ⟨read, split.trans (congrArg (read ++ ·) left.symm), ?_⟩
    rw [bytes, if_pos ⟨sent, rfl⟩]
    rfl

theorem received_eq (transaction : Transaction) :
    transaction.received =
      if transaction.controller.Takes ∧ transaction.packet.isBroadcast = false then
        transaction.heard.take (Deframer.run {} transaction.heard).taken
      else [] := by
  obtain ⟨read, split, bytes⟩ := transaction.queued_split
  rw [← bytes, received, split, List.length_append, Nat.add_sub_cancel, List.take_left]

theorem length_received_le (transaction : Transaction) :
    transaction.received.length ≤
      (2 * Frame.maxBody + 3) + (2 * Frame.maxBody + 1) * transaction.setbacks := by
  have taken := Deframer.taken_run_le_length {} transaction.heard
  have bound := Deframer.taken_run_le {} transaction.heard
  rw [setbacks, transaction.received_eq]
  split
  · rw [List.length_take, Nat.min_eq_left taken]
    exact bound
  · exact Nat.zero_le _

/-- **An exchange consumes as many bytes as set it back**, up to constants of the protocol: at most one
longest frame for each. A limit covers some exchanges just when one covers their setbacks. -/
theorem received_bounded_iff (calls : Set Transaction) :
    (∀ transaction : Transaction, transaction.setbacks ≤ transaction.received.length ∧
      transaction.received.length ≤
        (2 * Frame.maxBody + 3) + (2 * Frame.maxBody + 1) * transaction.setbacks) ∧
    ((∃ bound, ∀ transaction ∈ calls, transaction.received.length ≤ bound) ↔
      ∃ bound, ∀ transaction ∈ calls, transaction.setbacks ≤ bound) := by
  have above : ∀ transaction : Transaction, transaction.setbacks ≤ transaction.received.length :=
    fun transaction => Deframer.setbacks_le_length {} transaction.received
  refine ⟨fun transaction => ⟨above transaction, transaction.length_received_le⟩, ?_, ?_⟩
  · rintro ⟨bound, limited⟩
    exact ⟨bound, fun transaction member => (above transaction).trans (limited transaction member)⟩
  · rintro ⟨bound, limited⟩
    refine ⟨(2 * Frame.maxBody + 3) + (2 * Frame.maxBody + 1) * bound, fun transaction member => ?_⟩
    have scaled := Nat.mul_le_mul_left (2 * Frame.maxBody + 1) (limited transaction member)
    have received := transaction.length_received_le
    omega

/-! ### Answers without end -/

/-- A request to a node that answers with the given bytes, each at the very end of its budget. -/
def trickled (budget : Nat) (bytes : List UInt8) : Transaction where
  controller := { bus := { script := [{ bytes, gap := budget }] } }
  packet := { address := 0x10, command := 0x07 }
  budget

variable (budget : Nat) (bytes : List UInt8)

theorem trickled_takes : (trickled budget bytes).controller.Takes := ⟨rfl, Nat.zero_le _, rfl⟩

theorem heard_trickled : (trickled budget bytes).heard = bytes := by
  have items : Reply.items { bytes, gap := budget } = bytes.map .byte := List.append_nil _
  change audible budget 0 (arrivals budget 0 0 (Reply.items { bytes, gap := budget })) = bytes
  rw [items]
  exact audible_arrivals budget 0 budget 0 0 bytes (by omega) (Nat.le_refl _)

theorem bytesOf_queued_trickled : bytesOf (trickled budget bytes).queued = bytes :=
  Bus.bytesOf_queue_write _ _ _ (trickled_takes budget bytes)

theorem received_trickled (whole : (Deframer.run {} bytes).taken = bytes.length) :
    (trickled budget bytes).received = bytes := by
  rw [received_eq, if_pos ⟨trickled_takes budget bytes, rfl⟩, heard_trickled, whole, List.take_length]

end Transaction

namespace Transaction
open Deframer

/-- The bound is reached for every number of setbacks. -/
theorem received_worst (restarts : Nat) :
    ∃ transaction : Transaction, transaction.packet.isBroadcast = false ∧
      transaction.setbacks = restarts ∧
      transaction.received.length =
        (2 * Frame.maxBody + 3) + (2 * Frame.maxBody + 1) * restarts := by
  have fresh : Deframer.run {} crowding = ⟨crowded, .more, crowding.length⟩ := by decide +kernel
  have none : Deframer.setbacks {} crowding = 0 := by decide +kernel
  have length : crowding.length = 2 * Frame.maxBody + 1 := by decide +kernel
  obtain ⟨taken, total, setbacks⟩ := taken_crowdedOver restarts
  obtain ⟨takenAll, setbacksAll⟩ :=
    run_append_of_more {} crowding (crowdedOver restarts) (by rw [fresh])
  rw [fresh] at takenAll setbacksAll
  have received := received_trickled 250 (crowding ++ crowdedOver restarts)
    (by rw [takenAll, taken, List.length_append])
  refine ⟨trickled 250 (crowding ++ crowdedOver restarts), rfl, ?_, ?_⟩
  · rw [Transaction.setbacks, received, setbacksAll, none, setbacks, Nat.zero_add]
  · rw [received, List.length_append, length, total]
    omega

end Transaction

/-- No fixed limit holds for what an exchange with one node consumes, although the port takes the request
and every byte of the answer comes in time. -/
theorem Transaction.not_received_bounded :
    ¬ ∃ bound, ∀ transaction : Transaction, transaction.packet.isBroadcast = false →
      transaction.controller.Takes → transaction.heard = bytesOf transaction.queued →
      transaction.received.length ≤ bound := by
  rintro ⟨bound, limited⟩
  have noise : (Deframer.run {} (Escape.stx :: List.replicate bound 0)).taken = bound + 1 := by
    have fed : Deframer.feed {} Escape.stx = ({ phase := .inside, started := true }, .more) := rfl
    rw [Deframer.run_cons_more _ _ _ _ fed]
    exact congrArg (· + 1) (Deframer.taken_run_noise _ bound rfl)
  have received := limited (trickled 250 (Escape.stx :: List.replicate bound 0)) rfl
    (trickled_takes _ _) (by rw [heard_trickled, bytesOf_queued_trickled])
  rw [received_trickled _ _ (by rw [noise, List.length_cons, List.length_replicate]),
    List.length_cons, List.length_replicate] at received
  omega

end NodeBus
