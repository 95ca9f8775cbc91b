import Mathlib
import NodeBus.Proofs.Attribution
import NodeBus.Proofs.Requests

/-!
# The law of retries

A send makes some attempts that fail in a way worth repeating, and one last attempt that decides. `Persists`
is that recursion as a relation, with one case for the end and one for another attempt; each part of the
law is an induction over it. `send_obeys_retry_law` holds them all: how many attempts there are, which of
them can fail how, what the result is, what is written, and what is counted.
-/
namespace NodeBus

/-- The counter in which attempts with this outcome are counted. There is none for malformed requests. -/
def Statistics.counter (statistics : Statistics) : Outcome → UInt32
  | .ok () => statistics.roundTrips
  | .error .rxTimeout => statistics.rxTimeouts
  | .error .txTimeout => statistics.txTimeouts
  | .error .crc => statistics.crcErrors
  | .error .framing => statistics.framingErrors
  | .error .format => statistics.formatErrors
  | .error .nak => statistics.naks
  | .error .invalidParam => 0

/-- Counting an attempt moves its own counter and no other. -/
theorem Statistics.counter_record (statistics : Statistics) (happened asked : Outcome)
    (legal : happened ≠ .error .invalidParam) :
    (statistics.record happened).counter asked =
      statistics.counter asked + if happened = asked then 1 else 0 := by
  rcases happened with error | ⟨⟩ <;> rcases asked with other | ⟨⟩
  · cases error with
    | invalidParam => exact absurd rfl legal
    | _ => cases other <;> simp [record, counter]
  · cases error <;> simp [record, counter]
  · cases other <;> simp [record, counter]
  · simp [record, counter]

theorem Statistics.spurious_record (statistics : Statistics) (outcome : Outcome) :
    (statistics.record outcome).spuriousPackets = statistics.spuriousPackets := by
  rcases outcome with error | ⟨⟩
  · cases error <;> rfl
  · rfl

namespace Transaction

/-- The controller once the exchange is counted. -/
def counted (transaction : Transaction) : Controller :=
  { transaction.sent.controller with
    statistics := transaction.sent.controller.statistics.record transaction.sent.outcome }

/-- The exchange failed in a way that is worth another attempt. -/
def WorthRepeating (transaction : Transaction) : Prop :=
  transaction.sent.outcome ∈ [.error .rxTimeout, .error .crc, .error .framing]

theorem worthRepeating_of_retryable (transaction : Transaction) (error : BusError)
    (failed : transaction.sent.outcome = .error error) (again : error.isRetryable = true) :
    transaction.WorthRepeating := by
  rw [WorthRepeating, failed]
  cases error with
  | rxTimeout | crc | framing => simp
  | txTimeout | format | nak | invalidParam => cases again

theorem not_worthRepeating (transaction : Transaction)
    (final : ∀ error, transaction.sent.outcome = .error error → error.isRetryable = false) :
    ¬ transaction.WorthRepeating := by
  intro again
  simp only [WorthRepeating, List.mem_cons, List.not_mem_nil, or_false] at again
  rcases again with failed | failed | failed
  · cases final _ failed
  · cases final _ failed
  · cases final _ failed

/-- What the port refuses is not repeated. -/
theorem taken_of_worthRepeating (transaction : Transaction) (again : transaction.WorthRepeating) :
    transaction.controller.Takes := by
  by_contra refused
  have failed : transaction.sent.outcome = .error .txTimeout :=
    (Controller.exchange_txTimeout_iff _ _ _).mpr refused
  rw [WorthRepeating, failed] at again
  simp at again

end Transaction

namespace Controller

/-- Persisting, with the attempts that were repeated, the last one, and the result. -/
inductive Persists : Nat → Controller → Packet → List Transaction → Transaction → Sent → Prop
  | stop {retries : Nat} {controller : Controller} {packet : Packet}
      (final : (controller.firstTransaction packet).WorthRepeating → retries = 0) :
      Persists retries controller packet [] (controller.firstTransaction packet) (controller.attempt packet)
  | again {retries : Nat} {controller : Controller} {packet : Packet} {earlier : List Transaction}
      {last : Transaction} {result : Sent}
      (worth : (controller.firstTransaction packet).WorthRepeating)
      (later : Persists retries (controller.attempt packet).controller
        (controller.attempt packet).packet earlier last result) :
      Persists (retries + 1) controller packet (controller.firstTransaction packet :: earlier) last result

theorem persists (retries : Nat) (controller : Controller) (packet : Packet) :
    ∃ earlier last, attempts retries controller packet = earlier ++ [last] ∧
      Persists retries controller packet earlier last (persist retries controller packet) := by
  induction retries generalizing controller packet with
  | zero => exact ⟨[], controller.firstTransaction packet, rfl, .stop fun _ => rfl⟩
  | succ retries ih =>
    rcases persist_cases retries controller packet with ⟨final, run, made⟩ | ⟨error, failed, again, run, made⟩
    · have decided := (controller.firstTransaction packet).not_worthRepeating final
      rw [run, made]
      exact ⟨[], controller.firstTransaction packet, rfl, .stop fun worth => absurd worth decided⟩
    · obtain ⟨earlier, last, split, later⟩ := ih (controller.attempt packet).controller
        (controller.attempt packet).packet
      have worth := (controller.firstTransaction packet).worthRepeating_of_retryable error failed again
      rw [run, made, split]
      exact ⟨controller.firstTransaction packet :: earlier, last, rfl, .again worth later⟩

section Laws

variable {retries : Nat} {controller : Controller} {packet : Packet} {earlier : List Transaction}
  {last : Transaction} {result : Sent}

theorem Persists.length_le (run : Persists retries controller packet earlier last result) :
    earlier.length ≤ retries := by
  induction run with
  | stop final => exact Nat.zero_le _
  | again worth later ih => exact Nat.succ_le_succ ih

theorem Persists.exhausted (run : Persists retries controller packet earlier last result)
    (worth : last.WorthRepeating) : earlier.length = retries := by
  induction run with
  | stop final => exact (final worth).symm
  | again _ later ih => exact congrArg (· + 1) (ih worth)

theorem Persists.worthRepeating (run : Persists retries controller packet earlier last result) :
    ∀ attempt ∈ earlier, attempt.WorthRepeating := by
  induction run with
  | stop final => simp
  | again worth later ih =>
    intro attempt member
    rcases List.mem_cons.mp member with rfl | behind
    · exact worth
    · exact ih attempt behind

/-- The result is that of the last attempt. -/
theorem Persists.result_eq (run : Persists retries controller packet earlier last result) :
    result.outcome = last.sent.outcome ∧ result.packet = last.sent.packet ∧
      result.controller = last.counted := by
  induction run with
  | stop final => exact ⟨rfl, rfl, rfl⟩
  | again worth later ih => exact ih

theorem Persists.head_eq (run : Persists retries controller packet earlier last result) :
    (earlier ++ [last]).head? = some (controller.firstTransaction packet) := by
  cases run with
  | stop final => rfl
  | again worth later => rfl

/-- Each attempt starts from what the one before it left. -/
theorem Persists.consecutive (run : Persists retries controller packet earlier last result) :
    (earlier ++ [last]).IsChain fun one next =>
      next = one.counted.firstTransaction one.sent.packet := by
  induction run with
  | stop final => exact .singleton _
  | @again _ _ _ earlier last _ worth later ih =>
    have first := later.head_eq
    rw [List.cons_append]
    cases split : earlier ++ [last] with
    | nil => simp at split
    | cons next rest =>
      rw [split] at ih first
      exact .cons_cons (Option.some.inj first) ih

theorem Persists.spurious_eq (run : Persists retries controller packet earlier last result) :
    result.controller.statistics.spuriousPackets = controller.statistics.spuriousPackets := by
  induction run with
  | stop final => exact Statistics.spurious_record _ _
  | again worth later ih => exact ih.trans (Statistics.spurious_record _ _)

/-- On record are the frames of all attempts, less the last one if the port refused it. -/
theorem Persists.record_eq (run : Persists retries controller packet earlier last result) :
    (earlier ++ [last]).flatMap Transaction.record = earlier.map Transaction.frame ++ last.record := by
  have taken : ∀ attempt ∈ earlier, attempt.record = [attempt.frame] := fun attempt member =>
    if_pos (attempt.taken_of_worthRepeating (run.worthRepeating attempt member))
  rw [List.flatMap_append, List.flatMap_congr taken, ← List.map_eq_flatMap, List.flatMap_singleton]

/-- Every attempt is counted once, by its outcome. -/
theorem Persists.counter_eq (run : Persists retries controller packet earlier last result)
    (outcome : Outcome) :
    result.controller.statistics.counter outcome = controller.statistics.counter outcome +
      UInt32.ofNat ((earlier ++ [last]).countP fun attempt => attempt.sent.outcome = outcome) := by
  induction run with
  | @stop _ controller packet final =>
    have counted := Statistics.counter_record controller.statistics
      (controller.firstTransaction packet).sent.outcome outcome (exchange_ne_invalidParam _ _ _)
    refine counted.trans ?_
    simp only [List.nil_append, List.countP_singleton, decide_eq_true_eq]
    split <;> rfl
  | @again _ controller packet earlier last _ worth later ih =>
    have counted := Statistics.counter_record controller.statistics
      (controller.firstTransaction packet).sent.outcome outcome (exchange_ne_invalidParam _ _ _)
    change (controller.attempt packet).controller.statistics.counter outcome = _ at counted
    rw [ih, counted, List.cons_append, List.countP_cons, UInt32.ofNat_add, UInt32.add_assoc]
    congr 1
    rw [UInt32.add_comm]
    congr 1
    simp only [decide_eq_true_eq]
    split <;> rfl

/-- An attempt that is not worth repeating is the only one. -/
theorem send_of_final (controller : Controller) (packet : Packet)
    (final : ¬ (controller.firstTransaction packet).WorthRepeating) :
    controller.sendAttempts packet = [controller.firstTransaction packet] ∧
      controller.send packet = controller.attempt packet := by
  obtain ⟨earlier, last, made, run⟩ := persists controller.settings.retries.toNat controller packet
  rw [sendAttempts, made, send]
  generalize persist controller.settings.retries.toNat controller packet = result at run
  generalize controller.settings.retries.toNat = retries at run
  cases run with
  | stop => exact ⟨rfl, rfl⟩
  | again worth later => exact absurd worth final

end Laws

/-- What a send comes to, by the attempts that were repeated and the last one. -/
structure RetryLaw (controller : Controller) (packet : Packet) (earlier : List Transaction)
    (last : Transaction) : Prop where
  first : (earlier ++ [last]).head? = some (controller.firstTransaction packet)
  /-- Each attempt starts from what the one before it left. -/
  consecutive : (earlier ++ [last]).IsChain fun one next =>
    next = one.counted.firstTransaction one.sent.packet
  bounded : (earlier ++ [last]).length ≤ controller.settings.retries.toNat + 1
  repeated : ∀ attempt ∈ earlier, attempt.WorthRepeating
  decided : last.WorthRepeating → (earlier ++ [last]).length = controller.settings.retries.toNat + 1
  outcome : (controller.send packet).outcome = last.sent.outcome
  handedBack : (controller.send packet).packet = last.sent.packet
  after : (controller.send packet).controller = last.counted
  /-- A status that is handed back was accepted in the last attempt. A broadcast awaits no answer. -/
  status : (controller.send packet).outcome = .ok () →
    if packet.isBroadcast then earlier = [] ∧ (controller.send packet).packet = packet
    else ∃ address command,
      last.Accepts address command (controller.send packet).packet.status.items
  /-- Every attempt hands over the same frame; only the last one can be refused. -/
  frame : ∀ attempt ∈ earlier ++ [last],
    attempt.frame = Frame.commandFrame (controller.variantOf packet) packet ∧
    attempt.sent.controller.bus.script = attempt.controller.bus.script.tail ∧
    attempt.sent.controller.bus.written = attempt.controller.bus.written ++ attempt.record
  taken : ∀ attempt ∈ earlier, attempt.controller.Takes
  script : (controller.send packet).controller.bus.script =
    controller.bus.script.drop (earlier ++ [last]).length
  written : (controller.send packet).controller.bus.written = controller.bus.written ++
    earlier.map Transaction.frame ++ last.record
  counted : ∀ outcome, (controller.send packet).controller.statistics.counter outcome =
    controller.statistics.counter outcome +
      UInt32.ofNat ((earlier ++ [last]).countP fun attempt => attempt.sent.outcome = outcome)
  spurious : (controller.send packet).controller.statistics.spuriousPackets =
    controller.statistics.spuriousPackets
  nodes : (controller.send packet).controller.nodes = controller.nodes
  settings : (controller.send packet).controller.settings = controller.settings
  legal : ∀ attempt ∈ earlier ++ [last], attempt.sent.outcome ≠ .error .invalidParam

/-- A broadcast is over with its first attempt, and hands its packet back as it was. -/
theorem Persists.broadcast {retries : Nat} {controller : Controller} {packet : Packet}
    {earlier : List Transaction} {last : Transaction} {result : Sent}
    (run : Persists retries controller packet earlier last result) (everyone : packet.isBroadcast = true) :
    earlier = [] ∧ result.packet = packet := by
  have ended : ∀ outcome after,
      (controller.firstTransaction packet).sent.outcome = outcome →
      (controller.firstTransaction packet).sent.packet = after →
      outcome ∉ [.error .rxTimeout, .error .crc, .error .framing] ∧ after = packet := by
    intro outcome after same samePacket
    have ending := (exchange_ending_iff controller packet _ outcome after).mpr ⟨same, samePacket⟩
    cases ending with
    | untaken | broadcast => exact ⟨by simp, rfl⟩
    | silent _ unicast | unfinished _ unicast | short _ unicast | damaged _ unicast
    | refusal _ unicast | strange _ unicast | overlong _ unicast | accepted _ unicast =>
      rw [everyone] at unicast
      cases unicast
  obtain ⟨final, same⟩ := ended _ _ rfl rfl
  cases run with
  | stop => exact ⟨rfl, same⟩
  | again worth later => exact absurd worth final

/-- **The law of retries.** -/
theorem send_obeys_retry_law (controller : Controller) (packet : Packet) :
    ∃ earlier last, controller.sendAttempts packet = earlier ++ [last] ∧
      RetryLaw controller packet earlier last := by
  obtain ⟨earlier, last, made, run⟩ := persists controller.settings.retries.toNat controller packet
  obtain ⟨outcome, after, left⟩ := run.result_eq
  have consecutive := consecutive_attempts controller.settings.retries.toNat controller packet
  change attempts controller.settings.retries.toNat controller packet = _ at made
  have samePacket : ∀ attempt ∈ earlier ++ [last], attempt.packet.emptied = packet.emptied := by
    intro attempt member
    rw [← made] at member
    exact attempts_packet _ controller packet attempt member
  rw [made] at consecutive
  have lastMember : last ∈ earlier ++ [last] := by simp
  refine ⟨earlier, last, made, ?_⟩
  exact {
    first := run.head_eq
    consecutive := run.consecutive
    bounded := by
      have bound := run.length_le
      rw [List.length_append, List.length_singleton]
      omega
    repeated := run.worthRepeating
    decided := by
      intro worth
      rw [List.length_append, List.length_singleton, run.exhausted worth]
    outcome
    handedBack := after
    after := left
    status := by
      intro success
      cases cast : packet.isBroadcast with
      | true => exact run.broadcast cast
      | false =>
        have address : last.packet.address = packet.address :=
          (congrArg Packet.address (samePacket last lastMember) :)
        have unicast : last.packet.isBroadcast = false := by
          rw [Packet.isBroadcast, address]
          exact cast
        change ∃ address command, last.Accepts address command
          (persist controller.settings.retries.toNat controller packet).packet.status.items
        rw [after]
        exact last.accepts_of_ok unicast (outcome.symm.trans success)
    frame := by
      intro attempt member
      have sameNodes := consecutive.nodes_eq.2 attempt member
      have sameFrame : attempt.frame = (controller.firstTransaction packet).frame :=
        Transaction.frame_congr sameNodes (samePacket attempt member)
      exact ⟨sameFrame, attempt.script_sent, attempt.written_sent⟩
    taken := fun attempt member => attempt.taken_of_worthRepeating (run.worthRepeating attempt member)
    script := consecutive.script_eq
    written := by
      rw [List.append_assoc, ← run.record_eq]
      exact consecutive.written_eq
    counted := run.counter_eq
    spurious := run.spurious_eq
    nodes := consecutive.nodes_eq.1
    settings := consecutive.settings_eq
    legal := fun attempt _ => exchange_ne_invalidParam attempt.controller attempt.packet attempt.budget }

end Controller

end NodeBus
