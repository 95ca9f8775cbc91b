import Mathlib
import NodeBus.Proofs.ExchangeClassification

/-!
# Attempts, and the packet a failed call hands back

A send is a list of exchanges, each starting from the controller and the packet that the one before it
left behind (`Controller.attempts`); its result is that of the last (`persist_last`).

A failed exchange gives the packet back as it was, with one exception: an acknowledgement in the short
checksum with one status byte more than a packet holds. Such an answer still fits the longest body, which
leaves room for the long checksum, so the frame is accepted and the status is cleared before its bytes are
found not to fit. `failed_packet_unchanged_iff` states the exception exactly, for single exchanges and for
sends, where it may come from any attempt.
-/
namespace NodeBus

/-- The packet without its status bytes. -/
def Packet.emptied (packet : Packet) : Packet := { packet with status := .empty }

@[simp] theorem Packet.emptied_emptied (packet : Packet) : packet.emptied.emptied = packet.emptied := rfl

theorem Packet.emptied_eq_self_iff (packet : Packet) :
    packet.emptied = packet ↔ packet.status = .empty := by
  constructor
  · intro same
    exact (congrArg Packet.status same).symm
  · intro nothing
    rw [emptied, ← nothing]

/-- One exchange, by what it starts from. -/
structure Transaction where
  controller : Controller
  packet : Packet
  budget : Nat

namespace Transaction
open Exchange

/-- How the exchange turns out. -/
def sent (transaction : Transaction) : Sent :=
  transaction.controller.exchange transaction.packet transaction.budget

/-- The checksum the request goes out with. -/
def variant (transaction : Transaction) : Variant := transaction.controller.variantOf transaction.packet

/-- The bytes that can be heard after the request was written. -/
def heard (transaction : Transaction) : List UInt8 :=
  transaction.controller.heard transaction.packet transaction.budget

/-- The request is taken, and answered in the short checksum by an acknowledgement with one status byte
more than a packet holds. -/
def Overlong (transaction : Transaction) : Prop :=
  transaction.controller.Takes ∧ transaction.packet.isBroadcast = false ∧ transaction.variant = .crc8 ∧
    ∃ address command status, status.length = maxParams + 1 ∧
      Completes transaction.heard (answerBody .crc8 (Header.ack .crc8).toByte address command status)

/-- Status bytes that fit the longest body and no packet are one too many, in the short checksum. -/
theorem overlong_of_tooMany (transaction : Transaction) (sent : transaction.controller.Takes)
    (unicast : transaction.packet.isBroadcast = false) {address command : UInt8} {status : List UInt8}
    (tooMany : maxParams < status.length)
    (complete : Completes transaction.heard
      (answerBody transaction.variant (Header.ack transaction.variant).toByte address command status)) :
    transaction.Overlong := by
  have bound := complete.length_le
  rw [length_answerBody, Frame.maxBody] at bound
  have check := transaction.variant.length_pos
  cases variant : transaction.variant with
  | crc8 =>
    rw [variant] at complete
    exact ⟨sent, unicast, variant, address, command, status, by omega, complete⟩
  | crc16 =>
    have long : transaction.variant.length = 2 := by rw [variant]; rfl
    omega

/-- An overlong answer is a broken frame, and empties the status of the packet. -/
theorem sent_of_overlong (transaction : Transaction) (overlong : transaction.Overlong) :
    transaction.sent.outcome = .error .framing ∧ transaction.sent.packet = transaction.packet.emptied := by
  obtain ⟨sent, unicast, variant, address, command, status, oneMore, complete⟩ := overlong
  rw [← variant] at complete
  have tooMany : maxParams < status.length := by omega
  exact (Controller.exchange_ending_iff transaction.controller transaction.packet transaction.budget _ _).mp
    (.overlong sent unicast address command status tooMany complete)

/-- Any other failure leaves the packet as it was. -/
theorem sent_packet_of_failed (transaction : Transaction) (error : BusError)
    (failed : transaction.sent.outcome = .error error) (notOverlong : ¬ transaction.Overlong) :
    transaction.sent.packet = transaction.packet := by
  obtain ⟨after, same, ending⟩ :=
    Controller.ending_of_outcome transaction.controller transaction.packet transaction.budget _ failed
  rw [sent, same]
  cases ending with
  | untaken | silent | unfinished | short | damaged | refusal | strange => rfl
  | overlong sent unicast address command status tooMany complete =>
    exact absurd (transaction.overlong_of_tooMany sent unicast tooMany complete) notOverlong

/-- An exchange changes nothing of a packet but its status. -/
theorem sent_packet_frame (transaction : Transaction) :
    transaction.sent.packet = { transaction.packet with status := transaction.sent.packet.status } := by
  obtain ⟨after, same, ending⟩ :=
    Controller.ending_of_outcome transaction.controller transaction.packet transaction.budget _ rfl
  rw [sent, same]
  generalize (Controller.exchange _ _ _).outcome = outcome at ending
  cases ending <;> rfl

end Transaction

namespace Controller

/-- The first attempt of a send. -/
def firstTransaction (controller : Controller) (packet : Packet) : Transaction where
  controller
  packet
  budget := controller.settings.timing.response

/-- The exchanges made by persisting, in order. -/
def attempts : Nat → Controller → Packet → List Transaction
  | 0, controller, packet => [controller.firstTransaction packet]
  | retries + 1, controller, packet =>
    controller.firstTransaction packet ::
      match (controller.firstTransaction packet).sent.outcome with
      | .ok () => []
      | .error error =>
        if error.isRetryable then
          attempts retries (controller.attempt packet).controller (controller.attempt packet).packet
        else []

/-- The exchanges made by a send, in order. -/
def sendAttempts (controller : Controller) (packet : Packet) : List Transaction :=
  attempts controller.settings.retries.toNat controller packet

theorem attempt_outcome (controller : Controller) (packet : Packet) :
    (controller.attempt packet).outcome = (controller.firstTransaction packet).sent.outcome := rfl

theorem attempt_packet (controller : Controller) (packet : Packet) :
    (controller.attempt packet).packet = (controller.firstTransaction packet).sent.packet := rfl

/-- Persisting stops with an attempt that is not worth repeating, and otherwise goes on from what the
attempt left behind with one retry less. -/
theorem persist_cases (retries : Nat) (controller : Controller) (packet : Packet) :
    ((∀ error, (controller.attempt packet).outcome = .error error → error.isRetryable = false) ∧
      persist (retries + 1) controller packet = controller.attempt packet ∧
      attempts (retries + 1) controller packet = [controller.firstTransaction packet]) ∨
    ∃ error, (controller.attempt packet).outcome = .error error ∧ error.isRetryable = true ∧
      persist (retries + 1) controller packet =
        persist retries (controller.attempt packet).controller (controller.attempt packet).packet ∧
      attempts (retries + 1) controller packet = controller.firstTransaction packet ::
        attempts retries (controller.attempt packet).controller (controller.attempt packet).packet := by
  have same := controller.attempt_outcome packet
  cases ended : (controller.attempt packet).outcome with
  | ok value =>
    rw [ended] at same
    left
    refine ⟨(fun error failed => nomatch failed), ?_, ?_⟩
    · simp only [persist, ended]
    · simp only [attempts, ← same]
  | error error =>
    rw [ended] at same
    by_cases again : error.isRetryable = true
    · right
      refine ⟨error, rfl, again, ?_, ?_⟩
      · simp only [persist, ended, again, if_true]
      · simp only [attempts, ← same, again, if_true]
    · left
      rw [Bool.not_eq_true] at again
      refine ⟨fun other failed => Except.error.inj failed ▸ again, ?_, ?_⟩
      · simp only [persist, ended, again, Bool.false_eq_true, if_false]
      · simp only [attempts, ← same, again, Bool.false_eq_true, if_false]

/-- Persisting ends as its last attempt did. -/
theorem persist_last (retries : Nat) (controller : Controller) (packet : Packet) :
    ∃ last ∈ attempts retries controller packet,
      (persist retries controller packet).outcome = last.sent.outcome ∧
      (persist retries controller packet).packet = last.sent.packet := by
  induction retries generalizing controller packet with
  | zero => exact ⟨controller.firstTransaction packet, List.mem_singleton_self _, rfl, rfl⟩
  | succ retries ih =>
    rcases persist_cases retries controller packet with ⟨_, run, made⟩ | ⟨_, _, _, run, made⟩
    · rw [run, made]
      exact ⟨controller.firstTransaction packet, List.mem_singleton_self _, rfl, rfl⟩
    · obtain ⟨last, member, outcome, after⟩ := ih (controller.attempt packet).controller
        (controller.attempt packet).packet
      rw [run, made]
      exact ⟨last, List.mem_cons_of_mem _ member, outcome, after⟩

/-- Every attempt is made for the same packet, up to its status bytes. -/
theorem attempts_packet (retries : Nat) (controller : Controller) (packet : Packet)
    (transaction : Transaction) (made : transaction ∈ attempts retries controller packet) :
    transaction.packet.emptied = packet.emptied := by
  induction retries generalizing controller packet with
  | zero =>
    obtain rfl := List.mem_singleton.mp made
    rfl
  | succ retries ih =>
    have frame := (controller.firstTransaction packet).sent_packet_frame
    rcases persist_cases retries controller packet with ⟨_, _, list⟩ | ⟨_, _, _, _, list⟩
    · rw [list] at made
      obtain rfl := List.mem_singleton.mp made
      rfl
    · rw [list] at made
      rcases List.mem_cons.mp made with rfl | later
      · rfl
      · rw [ih _ _ later, attempt_packet, frame]
        rfl

/-- One failed attempt: an overlong answer empties the packet, any other failure leaves it. -/
theorem attempt_failed (controller : Controller) (packet : Packet) (error : BusError)
    (failed : (controller.attempt packet).outcome = .error error) :
    ((controller.firstTransaction packet).Overlong →
      (controller.attempt packet).packet = packet.emptied) ∧
    (¬ (controller.firstTransaction packet).Overlong → (controller.attempt packet).packet = packet) := by
  rw [attempt_outcome] at failed
  rw [attempt_packet]
  exact ⟨fun overlong => ((controller.firstTransaction packet).sent_of_overlong overlong).2,
    fun fits => (controller.firstTransaction packet).sent_packet_of_failed error failed fits⟩

/-- A failed send empties the status of its packet if any of its attempts met an overlong answer, and
otherwise leaves the packet as it was. -/
theorem persist_failed (retries : Nat) (controller : Controller) (packet : Packet) (error : BusError)
    (failed : (persist retries controller packet).outcome = .error error) :
    ((∃ transaction ∈ attempts retries controller packet, transaction.Overlong) →
      (persist retries controller packet).packet = packet.emptied) ∧
    ((∀ transaction ∈ attempts retries controller packet, ¬ transaction.Overlong) →
      (persist retries controller packet).packet = packet) := by
  induction retries generalizing controller packet with
  | zero =>
    have once : attempts 0 controller packet = [controller.firstTransaction packet] := rfl
    rw [once]
    simp only [List.mem_singleton, forall_eq, exists_eq_left]
    exact attempt_failed controller packet error failed
  | succ retries ih =>
    rcases persist_cases retries controller packet with
      ⟨_, run, made⟩ | ⟨first, firstFailed, _, run, made⟩
    · rw [run] at failed ⊢
      rw [made]
      simp only [List.mem_singleton, forall_eq, exists_eq_left]
      exact attempt_failed controller packet error failed
    · obtain ⟨firstEmptied, firstKept⟩ := attempt_failed controller packet first firstFailed
      rw [run] at failed ⊢
      rw [made]
      obtain ⟨emptied, kept⟩ := ih _ _ failed
      -- the retries start from the packet as the first attempt left it, perhaps emptied already
      by_cases overlong : (controller.firstTransaction packet).Overlong
      · rw [firstEmptied overlong] at emptied kept ⊢
        refine ⟨fun _ => ?_, fun fits => absurd overlong (fits _ List.mem_cons_self)⟩
        by_cases later : ∃ transaction ∈ attempts retries (controller.attempt packet).controller
            packet.emptied, transaction.Overlong
        · rw [emptied later, Packet.emptied_emptied]
        · exact kept fun transaction member overlong => later ⟨transaction, member, overlong⟩
      · rw [firstKept overlong] at emptied kept ⊢
        simp only [List.mem_cons, forall_eq_or_imp, exists_eq_or_imp, overlong, false_or,
          not_false_eq_true, true_and]
        exact ⟨emptied, kept⟩

/-- What remains of a packet that is only ever kept or emptied, told by whether it is unchanged. -/
theorem unchanged_iff_of_emptied_or_kept {overlong : Prop} {before after : Packet}
    (emptied : overlong → after = before.emptied) (kept : ¬ overlong → after = before) :
    (after = before ↔ before.status = .empty ∨ ¬ overlong) ∧ (after ≠ before → after = before.emptied) := by
  by_cases cause : overlong
  · rw [emptied cause, Packet.emptied_eq_self_iff]
    exact ⟨by simp only [cause, not_true_eq_false, or_false], fun _ => rfl⟩
  · rw [kept cause]
    exact ⟨by simp only [cause, not_false_eq_true, or_true], fun changed => absurd rfl changed⟩

/-- **What a failed call leaves of its packet.** It is unchanged unless it held status bytes and an
overlong answer was met, in a send by any of the attempts; then exactly these status bytes are gone. -/
theorem failed_packet_unchanged_iff (controller : Controller) (packet : Packet) (budget : Nat) :
    (∀ error, (controller.exchange packet budget).outcome = .error error →
      ((controller.exchange packet budget).packet = packet ↔
        packet.status = .empty ∨ ¬ Transaction.Overlong ⟨controller, packet, budget⟩) ∧
      ((controller.exchange packet budget).packet ≠ packet →
        (controller.exchange packet budget).packet = packet.emptied)) ∧
    (∀ error, (controller.send packet).outcome = .error error →
      ((controller.send packet).packet = packet ↔
        packet.status = .empty ∨ ¬ ∃ transaction ∈ controller.sendAttempts packet, transaction.Overlong) ∧
      ((controller.send packet).packet ≠ packet → (controller.send packet).packet = packet.emptied)) := by
  constructor
  · intro error failed
    apply unchanged_iff_of_emptied_or_kept
    · exact fun overlong => (Transaction.sent_of_overlong ⟨controller, packet, budget⟩ overlong).2
    · exact Transaction.sent_packet_of_failed ⟨controller, packet, budget⟩ error failed
  · intro error failed
    obtain ⟨emptied, kept⟩ := persist_failed _ controller packet error failed
    apply unchanged_iff_of_emptied_or_kept
    · exact emptied
    · exact fun fits => kept fun transaction made overlong => fits ⟨transaction, made, overlong⟩

/-- A bus on which the next request is answered by an acknowledgement with seventeen status bytes. -/
def overlongAcknowledgement : Bus where
  script := [{ bytes := [0x02, 0xC1, 0x30, 0x07, 0x60, 0x61, 0x62, 0x63, 0x64, 0x65, 0x66, 0x67, 0x68,
    0x69, 0x6A, 0x6B, 0x6C, 0x6D, 0x6E, 0x6F, 0x70, 0x3B, 0x03] }]

/-- A bus on which the next request is refused. -/
def refusal : Bus where
  script := [{ bytes := [0x02, 0x81, 0x30, 0x07, 0x67, 0x03] }]

/-- A refused command leaves its packet alone, whatever status it held. -/
theorem failed_packet_unchanged_on_refusal :
    let controller : Controller := { bus := refusal }
    let packet : Packet := { address := 0x30, command := 0x07, status := ⟨[0xAA, 0xBB], by decide⟩ }
    (controller.exchange packet 250).outcome = .error .nak ∧
      (controller.exchange packet 250).packet = packet := by
  intro controller packet
  have failed : (controller.exchange packet 250).outcome = .error .nak := by decide +kernel
  have notOverlong : ¬ Transaction.Overlong ⟨controller, packet, 250⟩ := by
    rintro ⟨_, _, _, address, command, status, _, complete⟩
    have heard : Exchange.Completes (controller.heard packet 250) [0x81, 0x30, 0x07, 0x67] := by
      decide +kernel
    exact absurd (Option.some.inj (congrArg List.head? (complete.unique heard))) (by decide)
  exact ⟨failed,
    ((failed_packet_unchanged_iff controller packet 250).1 _ failed).1.mpr (.inr notOverlong)⟩

/-- The status a packet held is lost in a call that fails. -/
theorem overlongAcknowledgement_empties_status :
    let controller : Controller := { bus := overlongAcknowledgement }
    let packet : Packet := { address := 0x30, command := 0x07, status := ⟨[0xAA, 0xBB], by decide⟩ }
    (controller.exchange packet 250).outcome = .error .framing ∧
      (controller.exchange packet 250).packet ≠ packet ∧
      (controller.exchange packet 250).packet.status = .empty ∧
      (controller.send packet).outcome = .error .rxTimeout ∧
      (controller.send packet).packet.status = .empty := by
  decide +kernel

end Controller

end NodeBus
