import Mathlib
import NodeBus.Proofs.ReceiveBound
import NodeBus.Proofs.Session

/-!
# Whose answer is accepted

Nothing compares the address and command in an answer with those of the request. What is accepted is the
frame that the bytes left in the queue complete together with those of the reply, whoever sent it
(`Transaction.completes_of_accepts`). A late reply is therefore credited to the next request
(`lateReply_credited_elsewhere`).

Replies are credited to the right node and command as long as nothing is left in the queue and nodes echo
what they were asked. An exchange leaves nothing when its reply comes in time and holds one frame at most
(`Transaction.HeardOut`), so over a run in which all replies do, `send` hands back the status bytes of the
node it addressed and `scan` lists only nodes that answered (`accepted_answers_credited`).
-/
namespace NodeBus

namespace Transaction
open Exchange

/-- The reply that the request uses up. -/
def reply (transaction : Transaction) : Reply := transaction.controller.bus.script.headD {}

/-- The request is taken and answered by an acknowledgement with this address, command and status. -/
def Accepts (transaction : Transaction) (address command : UInt8) (status : List UInt8) : Prop :=
  transaction.controller.Takes ∧
    Completes transaction.heard
      (answerBody transaction.variant (Header.ack transaction.variant).toByte address command status)

/-- The reply is heard to its end: it comes in time, without a read error, holds no byte behind the frame
that it completes, and no byte at all when the request was a broadcast. -/
structure HeardOut (transaction : Transaction) : Prop where
  faultless : transaction.reply.readFails = false
  inTime : transaction.reply.after ≤ transaction.budget
  steady : transaction.reply.gap ≤ transaction.budget
  oneFrame : (Deframer.run {} transaction.reply.bytes).taken = transaction.reply.bytes.length
  quiet : transaction.packet.isBroadcast = true → transaction.reply.bytes = []

/-- A reply that is an answer echoes the address and the command of the request. -/
def Echoes (transaction : Transaction) : Prop :=
  ∀ header address command status,
    Completes transaction.reply.bytes (answerBody transaction.variant header address command status) →
    address = transaction.packet.address ∧ command = transaction.packet.command

/-- An exchange that succeeds with one node has accepted an answer with the status that it hands back. -/
theorem accepts_of_ok (transaction : Transaction) (unicast : transaction.packet.isBroadcast = false)
    (success : transaction.sent.outcome = .ok ()) :
    ∃ address command, transaction.Accepts address command transaction.sent.packet.status.items := by
  obtain ⟨sent, _, address, command, complete⟩ :=
    (Controller.exchange_ok_iff transaction.controller transaction.packet transaction.budget unicast _).mp
      ⟨success, rfl⟩
  exact ⟨address, command, sent, complete⟩

/-- An accepted answer is the frame completed by what was left in the queue and the reply behind it. -/
theorem completes_of_accepts (transaction : Transaction) {address command : UInt8} {status : List UInt8}
    (accepts : transaction.Accepts address command status) :
    Completes (bytesOf transaction.controller.bus.queue ++ transaction.reply.bytes)
      (answerBody transaction.variant (Header.ack transaction.variant).toByte address command status) := by
  obtain ⟨sent, complete⟩ := accepts
  have front : transaction.heard <+: bytesOf transaction.queued := audible_prefix _ _ _
  have queued : bytesOf transaction.queued =
      bytesOf transaction.controller.bus.queue ++ transaction.reply.bytes :=
    Bus.bytesOf_queue_write _ _ _ sent
  rw [queued] at front
  have ended : (Deframer.run {} transaction.heard).progress ≠ .more := by
    rw [complete.1]
    decide
  unfold Completes
  rw [Deframer.run_of_prefix {} _ _ front ended]
  exact complete

/-- With nothing left in the queue, an echoing node's answer is credited to the right request. -/
theorem accepts_echo (transaction : Transaction) (nothing : transaction.controller.bus.queue = [])
    (echoes : transaction.Echoes) (unicast : transaction.packet.isBroadcast = false)
    (success : transaction.sent.outcome = .ok ()) :
    transaction.Accepts transaction.packet.address transaction.packet.command
      transaction.sent.packet.status.items := by
  obtain ⟨address, command, accepts⟩ := transaction.accepts_of_ok unicast success
  have complete := transaction.completes_of_accepts accepts
  rw [nothing] at complete
  obtain ⟨rfl, rfl⟩ := echoes _ _ _ _ complete
  exact accepts

/-- The reply, if there is one, comes in time and without a read error. -/
def Prompt (transaction : Transaction) : Prop :=
  transaction.reply.readFails = false ∧ (transaction.reply.bytes ≠ [] →
    transaction.reply.after ≤ transaction.budget ∧ transaction.reply.gap ≤ transaction.budget)

instance (transaction : Transaction) : Decidable transaction.Prompt :=
  inferInstanceAs (Decidable (_ ∧ (_ → _)))

theorem HeardOut.prompt {transaction : Transaction} (heardOut : transaction.HeardOut) :
    transaction.Prompt :=
  ⟨heardOut.faultless, fun _ => ⟨heardOut.inTime, heardOut.steady⟩⟩

/-- With nothing left in the queue, what is heard is the reply. -/
theorem heard_eq_reply (transaction : Transaction) (nothing : transaction.controller.bus.queue = [])
    (prompt : transaction.Prompt) (sent : transaction.controller.Takes) :
    transaction.queued.length = transaction.reply.bytes.length ∧
      transaction.heard = transaction.reply.bytes := by
  obtain ⟨faultless, timely⟩ := prompt
  have items : transaction.reply.items = transaction.reply.bytes.map .byte := by
    rw [Reply.items, faultless]
    exact List.append_nil _
  obtain ⟨now, queue⟩ : transaction.written.now = _ ∧ transaction.queued = _ ++ arrivals _ _ _
    transaction.reply.items := Bus.queue_write _ _ _ sent
  rw [nothing, List.nil_append, items] at queue
  refine ⟨by rw [queue, length_arrivals, List.length_map], ?_⟩
  change audible transaction.budget transaction.written.now transaction.queued = _
  rw [queue]
  by_cases silent : transaction.reply.bytes = []
  · rw [silent]
    rfl
  · obtain ⟨inTime, steady⟩ := timely silent
    have first := Nat.add_le_add_left inTime transaction.written.now
    rw [now] at first ⊢
    exact audible_arrivals _ _ _ _ _ _ (Nat.max_le.mpr ⟨first, Nat.zero_le _⟩) steady

/-- An exchange leaves nothing behind of a reply that comes in time, holds one frame at most, and does
not answer a broadcast. -/
theorem sent_queue_nil_of_prompt (transaction : Transaction)
    (nothing : transaction.controller.bus.queue = []) (prompt : transaction.Prompt)
    (oneFrame : (Deframer.run {} transaction.reply.bytes).taken = transaction.reply.bytes.length)
    (quiet : transaction.packet.isBroadcast = true → transaction.reply.bytes = []) :
    transaction.sent.controller.bus.queue = [] := by
  obtain ⟨read, split, bytes⟩ := transaction.queued_split
  by_cases sent : transaction.controller.Takes
  case neg =>
    have same : transaction.queued = transaction.controller.bus.queue :=
      Bus.queue_write_untaken _ _ _ sent
    rw [same, nothing] at split
    exact (List.append_eq_nil_iff.mp split.symm).2
  obtain ⟨length, heard⟩ := transaction.heard_eq_reply nothing prompt sent
  cases cast : transaction.packet.isBroadcast with
  | true =>
    rw [quiet cast, List.length_nil, List.length_eq_zero_iff] at length
    rw [length] at split
    exact (List.append_eq_nil_iff.mp split.symm).2
  | false =>
    rw [if_pos ⟨sent, cast⟩, heard, oneFrame, List.take_length] at bytes
    exact nil_of_all_read split (by rw [bytes, length])

/-- An exchange whose reply is heard out leaves nothing behind. -/
theorem sent_queue_nil (transaction : Transaction) (nothing : transaction.controller.bus.queue = [])
    (heardOut : transaction.HeardOut) : transaction.sent.controller.bus.queue = [] :=
  transaction.sent_queue_nil_of_prompt nothing heardOut.prompt heardOut.oneFrame heardOut.quiet

end Transaction

/-- While every exchange is heard out, the next one finds nothing in the queue. -/
theorem Chained.queue_nil {earlier later : List Transaction} {transaction : Transaction}
    {before after : List Arrival} (nothing : before = [])
    (chained : Chained before (earlier ++ transaction :: later) after)
    (heardOut : ∀ past ∈ earlier, past.HeardOut) : transaction.controller.bus.queue = [] := by
  induction earlier generalizing before with
  | nil => exact chained.1.trans nothing
  | cons past rest ih =>
    obtain ⟨first, others⟩ := List.forall_mem_cons.mp heardOut
    exact ih (past.sent_queue_nil (chained.1.trans nothing) first) chained.2 others

/-! ### What operations return -/

namespace Controller

/-- What an operation returns of a node's status was accepted from the node and for the command that it
is returned for. -/
def Credited (controller : Controller) : Operation → Prop
  | .exchange packet budget =>
    packet.isBroadcast = false → (controller.exchange packet budget).outcome = .ok () →
      Transaction.Accepts { controller, packet, budget } packet.address packet.command
        (controller.exchange packet budget).packet.status.items
  | .send packet =>
    packet.isBroadcast = false → (controller.send packet).outcome = .ok () →
      ∃ attempt ∈ controller.sendAttempts packet,
        attempt.Accepts packet.address packet.command (controller.send packet).packet.status.items
  | .scan =>
    ∀ node ∈ controller.scan.2.1.items,
      ∃ query ∈ controller.transactions .scan, ∃ status,
        query.Accepts node.address identifyCommand status ∧ node = .ofStatus node.address status
  | .enumerate | .raw _ | .serviceInterrupt | .configure _ | .takeStatistics => True

/-- When every exchange of an operation accepts only answers to its own request, the operation credits
all it returns to the right node and command. -/
theorem credited_of_accepts (controller : Controller) (operation : Operation)
    (accepts : ∀ transaction ∈ controller.transactions operation,
      transaction.packet.isBroadcast = false → transaction.sent.outcome = .ok () →
      transaction.Accepts transaction.packet.address transaction.packet.command
        transaction.sent.packet.status.items) : controller.Credited operation := by
  cases operation with
  | exchange packet budget =>
    intro unicast success
    exact accepts _ (List.mem_singleton_self _) unicast success
  | send packet =>
    intro unicast success
    obtain ⟨last, member, outcome, after⟩ :=
      persist_last controller.settings.retries.toNat controller packet
    have same := attempts_packet _ _ _ last member
    have address : last.packet.address = packet.address := (congrArg Packet.address same :)
    have command : last.packet.command = packet.command := (congrArg Packet.command same :)
    refine ⟨last, member, ?_⟩
    unfold send at success ⊢
    rw [← address, ← command, after]
    refine accepts last member ?_ (outcome.symm.trans success)
    rw [Packet.isBroadcast, address]
    exact unicast
  | scan =>
    intro node listed
    rcases controller.mem_scanOver .empty _ node listed with known |
      ⟨query, member, address, visited, packet, success, rfl⟩
    · cases known
    · have unicast := scanAddresses_unicast controller.settings address visited
      rw [← packet] at unicast
      have accepted := accepts query member unicast success
      rw [packet] at accepted
      exact ⟨query, member, _, accepted, rfl⟩
  | enumerate | raw | serviceInterrupt | configure | takeStatistics => trivial

theorem mem_history (controller : Controller) (steps : List Step) {started : Controller}
    {operation : Operation} (performed : (started, operation) ∈ controller.operations steps)
    {transaction : Transaction} (made : transaction ∈ started.transactions operation) :
    transaction ∈ controller.history steps :=
  List.mem_flatMap.mpr ⟨(started, operation), performed, made⟩

/-- **Whose answers a run accepts.** An exchange with one node accepts the frame that the bytes left in
the queue and then its own reply complete, whatever address and command it carries. From an empty queue on
and after replies that were all heard out, the reply of an echoing node is credited to the request it
answers; and in a run in which this holds throughout, so is all that its operations return. -/
theorem accepted_answers_credited (controller : Controller) (steps : List Step)
    (leaves : ∀ step ∈ steps, step.leavesQueue = true) :
    (∀ transaction ∈ controller.history steps,
      transaction.packet.isBroadcast = false → transaction.sent.outcome = .ok () →
      ∃ address command,
        transaction.Accepts address command transaction.sent.packet.status.items ∧
        Exchange.Completes (bytesOf transaction.controller.bus.queue ++ transaction.reply.bytes)
          (Exchange.answerBody transaction.variant (Header.ack transaction.variant).toByte address command
            transaction.sent.packet.status.items)) ∧
    (controller.bus.queue = [] → ∀ earlier transaction later,
      controller.history steps = earlier ++ transaction :: later →
      (∀ past ∈ earlier, past.HeardOut) → transaction.Echoes →
      transaction.packet.isBroadcast = false → transaction.sent.outcome = .ok () →
      transaction.Accepts transaction.packet.address transaction.packet.command
        transaction.sent.packet.status.items) ∧
    (controller.bus.queue = [] →
      (∀ transaction ∈ controller.history steps, transaction.HeardOut ∧ transaction.Echoes) →
      ∀ started operation, (started, operation) ∈ controller.operations steps →
        started.Credited operation) := by
  obtain ⟨after, chained⟩ := controller.chained_history steps leaves
  have attributed : controller.bus.queue = [] → ∀ earlier transaction later,
      controller.history steps = earlier ++ transaction :: later →
      (∀ past ∈ earlier, past.HeardOut) → transaction.Echoes →
      transaction.packet.isBroadcast = false → transaction.sent.outcome = .ok () →
      transaction.Accepts transaction.packet.address transaction.packet.command
        transaction.sent.packet.status.items := by
    intro nothing earlier transaction later split heardOut echoes unicast success
    rw [split] at chained
    exact transaction.accepts_echo (chained.queue_nil nothing heardOut) echoes unicast success
  refine ⟨?_, attributed, ?_⟩
  · intro transaction _ unicast success
    obtain ⟨address, command, accepts⟩ := transaction.accepts_of_ok unicast success
    exact ⟨address, command, accepts, transaction.completes_of_accepts accepts⟩
  · intro nothing conforming started operation performed
    refine credited_of_accepts started operation fun transaction made unicast success => ?_
    have member := controller.mem_history steps performed made
    obtain ⟨earlier, later, split⟩ := List.append_of_mem member
    have heardOut : ∀ past ∈ earlier, past.HeardOut := fun past before =>
      (conforming past (split ▸ List.mem_append_left _ before)).1
    exact attributed nothing earlier transaction later split heardOut (conforming transaction member).2
      unicast success

/-- Two nodes answer in time. -/
def promptReplies : List Step :=
  [.expect [{ bytes := [0x02, 0xC1, 0x10, 0x07, 0x77, 0xE9, 0x03] },
      { bytes := [0x02, 0xC1, 0x20, 0x09, 0x55, 0x74, 0x03], gap := 200 }],
    .operate (.send { address := 0x10, command := 0x07 }), .wait 100,
    .operate (.send { address := 0x20, command := 0x09 })]

theorem promptReplies_credited :
    let controller : Controller := (promptReplies.take 3).foldl step {}
    let packet : Packet := { address := 0x20, command := 0x09 }
    (∀ step ∈ promptReplies, step.leavesQueue = true) ∧
      (controller.send packet).outcome = .ok () ∧
      (controller.send packet).packet.status.items = [0x55] ∧
      controller.Credited (.send packet) := by
  intro controller packet
  have leaves : ∀ step ∈ promptReplies, step.leavesQueue = true := by decide +kernel
  have conforming : ∀ transaction ∈ history {} promptReplies,
      transaction.HeardOut ∧ transaction.Echoes := by
    intro transaction member
    have heardOut : ∀ transaction ∈ history {} promptReplies,
        transaction.reply.readFails = false ∧ transaction.reply.after ≤ transaction.budget ∧
        transaction.reply.gap ≤ transaction.budget ∧
        (Deframer.run {} transaction.reply.bytes).taken = transaction.reply.bytes.length ∧
        (transaction.packet.isBroadcast = true → transaction.reply.bytes = []) := by
      decide +kernel
    have echoes : ∀ transaction ∈ history {} promptReplies,
        (Deframer.run {} transaction.reply.bytes).deframer.body.tail.take 2 =
          [transaction.packet.address, transaction.packet.command] := by
      decide +kernel
    obtain ⟨faultless, inTime, steady, oneFrame, quiet⟩ := heardOut transaction member
    refine ⟨⟨faultless, inTime, steady, oneFrame, quiet⟩, ?_⟩
    intro header address command status complete
    have bears := echoes transaction member
    rw [complete.2] at bears
    simpa [Exchange.answerBody] using bears
  refine ⟨leaves, by decide +kernel, by decide +kernel, ?_⟩
  exact (accepted_answers_credited {} promptReplies leaves).2.2 rfl conforming controller (.send packet)
    (List.mem_cons_of_mem _ (List.mem_singleton_self _))

/-- A node answers only after the controller has given it up. -/
def lateReply : List Step :=
  [.expect [{ bytes := [0x02, 0xC1, 0x10, 0x07, 0x77, 0xE9, 0x03], after := 300 }],
    .operate (.send { address := 0x10, command := 0x07 }), .wait 100]

/-- The late answer is accepted from another node, for another command. -/
theorem lateReply_credited_elsewhere :
    let controller : Controller := lateReply.foldl step { settings := { retries := 0 } }
    let packet : Packet := { address := 0x20, command := 0x09 }
    (controller.send packet).outcome = .ok () ∧
      (controller.send packet).packet.status.items = [0x77] ∧
      Transaction.Accepts { controller, packet, budget := 250 } 0x10 0x07 [0x77] ∧
      ¬ controller.Credited (.exchange packet 250) ∧ ¬ controller.Credited (.send packet) := by
  intro controller packet
  have accepts : Transaction.Accepts { controller, packet, budget := 250 } 0x10 0x07 [0x77] :=
    ⟨by decide +kernel, by decide +kernel⟩
  have other : ∀ status, ¬ Transaction.Accepts { controller, packet, budget := 250 } 0x20 0x09 status := by
    intro status elsewhere
    obtain ⟨-, address, -⟩ := Exchange.answerBody_inj (accepts.2.unique elsewhere.2)
    exact absurd address (by decide)
  have once : controller.sendAttempts packet = [{ controller, packet, budget := 250 }] := rfl
  refine ⟨by decide +kernel, by decide +kernel, accepts, ?_, ?_⟩
  · intro credited
    exact other _ (credited rfl (by decide +kernel))
  · intro credited
    obtain ⟨attempt, member, elsewhere⟩ := credited rfl (by decide +kernel)
    rw [once] at member
    obtain rfl := List.mem_singleton.mp member
    exact other _ elsewhere

end Controller

end NodeBus
