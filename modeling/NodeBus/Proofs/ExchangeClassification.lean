import Mathlib
import NodeBus.Proofs.ExchangeEnding

/-!
# The outcome of an exchange with one node

One condition for each outcome, on three things: whether the port took the request in its budget, which
bytes could be heard afterwards one by one, and the body of the frame those bytes complete.
`exchange_classified` holds them all; between them they leave no case out, so no two overlap.
-/
namespace NodeBus.Controller
open Exchange

/-- The bytes that can be heard after a packet was written, each within the budget. -/
def heard (controller : Controller) (packet : Packet) (budget : Nat) : List UInt8 :=
  heardAfter controller.nodes controller.settings.timing controller.bus packet budget

/-- The port takes the next request within the budget for writing. -/
def Takes (controller : Controller) : Prop := controller.bus.Takes controller.settings.timing.write

instance (controller : Controller) : Decidable controller.Takes :=
  inferInstanceAs (Decidable (Bus.Takes _ _))

/-- The checksum that a packet goes out with. -/
def variantOf (controller : Controller) (packet : Packet) : Variant :=
  controller.nodes.variantFor packet.address

theorem exchange_ending_iff (controller : Controller) (packet : Packet) (budget : Nat)
    (outcome : Outcome) (after : Packet) :
    Ends (controller.variantOf packet) controller.Takes (controller.heard packet budget) packet
        outcome after ↔
      (controller.exchange packet budget).outcome = outcome ∧
        (controller.exchange packet budget).packet = after :=
  run_ending_iff controller.nodes controller.settings.timing controller.bus packet budget outcome after

/-- The listed ending that an exchange with a known outcome had. -/
theorem ending_of_outcome (controller : Controller) (packet : Packet) (budget : Nat) (outcome : Outcome)
    (ended : (controller.exchange packet budget).outcome = outcome) :
    ∃ after, (controller.exchange packet budget).packet = after ∧
      Ends (controller.variantOf packet) controller.Takes (controller.heard packet budget) packet
        outcome after :=
  ⟨_, rfl, (exchange_ending_iff controller packet budget _ _).mpr ⟨ended, rfl⟩⟩

theorem outcome_of_ending (controller : Controller) (packet : Packet) (budget : Nat)
    {outcome : Outcome} {after : Packet}
    (ending : Ends (controller.variantOf packet) controller.Takes (controller.heard packet budget)
      packet outcome after) : (controller.exchange packet budget).outcome = outcome :=
  ((exchange_ending_iff controller packet budget _ _).mp ending).1

section Outcomes

variable (controller : Controller) (packet : Packet) (budget : Nat)

theorem exchange_txTimeout_iff :
    (controller.exchange packet budget).outcome = .error .txTimeout ↔ ¬ controller.Takes := by
  constructor
  · intro ended
    obtain ⟨_, -, ending⟩ := ending_of_outcome controller packet budget _ ended
    cases ending with
    | untaken refused => exact refused
  · intro refused
    exact outcome_of_ending controller packet budget (.untaken refused)

theorem exchange_ne_invalidParam :
    (controller.exchange packet budget).outcome ≠ .error .invalidParam := by
  intro ended
  obtain ⟨_, -, ending⟩ := ending_of_outcome controller packet budget _ ended
  cases ending

variable (unicast : packet.isBroadcast = false)
include unicast

/-- An exchange succeeds on an acknowledgement whose status bytes a packet can hold, and hands back
exactly these. -/
theorem exchange_ok_iff (status : List UInt8) :
    (controller.exchange packet budget).outcome = .ok () ∧
        (controller.exchange packet budget).packet.status.items = status ↔
      controller.Takes ∧ status.length ≤ maxParams ∧ ∃ address command,
        Completes (controller.heard packet budget)
          (answerBody (controller.variantOf packet) (Header.ack (controller.variantOf packet)).toByte
            address command status) := by
  constructor
  · rintro ⟨ended, rfl⟩
    obtain ⟨_, same, ending⟩ := ending_of_outcome controller packet budget _ ended
    rw [same]
    cases ending with
    | broadcast sent everyone => rw [unicast] at everyone; cases everyone
    | accepted sent _ address command status complete =>
      exact ⟨sent, status.fits, address, command, complete⟩
  · rintro ⟨sent, fits, address, command, complete⟩
    obtain ⟨ended, after⟩ := (exchange_ending_iff controller packet budget _ _).mp
      (.accepted sent unicast address command ⟨status, fits⟩ complete)
    exact ⟨ended, by rw [after]⟩

theorem exchange_rxTimeout_iff :
    (controller.exchange packet budget).outcome = .error .rxTimeout ↔
      controller.Takes ∧ controller.heard packet budget = [] := by
  constructor
  · intro ended
    obtain ⟨_, -, ending⟩ := ending_of_outcome controller packet budget _ ended
    cases ending with
    | silent sent _ nothing => exact ⟨sent, nothing⟩
  · rintro ⟨sent, nothing⟩
    exact outcome_of_ending controller packet budget (.silent sent unicast nothing)

theorem exchange_crc_iff :
    (controller.exchange packet budget).outcome = .error .crc ↔
      controller.Takes ∧ ∃ body, Completes (controller.heard packet budget) body ∧
        3 + (controller.variantOf packet).length ≤ body.length ∧
        ¬ (controller.variantOf packet).Sealed body := by
  constructor
  · intro ended
    obtain ⟨_, -, ending⟩ := ending_of_outcome controller packet budget _ ended
    cases ending with
    | damaged sent _ body complete long broken => exact ⟨sent, body, complete, long, broken⟩
  · rintro ⟨sent, body, complete, long, broken⟩
    exact outcome_of_ending controller packet budget (.damaged sent unicast body complete long broken)

theorem exchange_nak_iff :
    (controller.exchange packet budget).outcome = .error .nak ↔
      controller.Takes ∧ ∃ body, Completes (controller.heard packet budget) body ∧
        3 + (controller.variantOf packet).length ≤ body.length ∧
        (controller.variantOf packet).Sealed body ∧
        body.head? = some (Header.nak (controller.variantOf packet)).toByte := by
  constructor
  · intro ended
    obtain ⟨_, -, ending⟩ := ending_of_outcome controller packet budget _ ended
    cases ending with
    | refusal sent _ address command status complete =>
      refine ⟨sent, _, complete, ?_, sealed_answerBody _ _ _ _ _, rfl⟩
      rw [length_answerBody]
      omega
  · rintro ⟨sent, body, complete, long, whole, first⟩
    obtain ⟨header, address, command, status, rfl⟩ := eq_answerBody_of_sealed _ body long whole
    obtain rfl := Option.some.inj first
    exact outcome_of_ending controller packet budget
      (.refusal sent unicast address command status complete)

theorem exchange_format_iff :
    (controller.exchange packet budget).outcome = .error .format ↔
      controller.Takes ∧ ∃ body, Completes (controller.heard packet budget) body ∧
        3 + (controller.variantOf packet).length ≤ body.length ∧
        (controller.variantOf packet).Sealed body ∧
        body.head? ≠ some (Header.ack (controller.variantOf packet)).toByte ∧
        body.head? ≠ some (Header.nak (controller.variantOf packet)).toByte := by
  constructor
  · intro ended
    obtain ⟨_, -, ending⟩ := ending_of_outcome controller packet budget _ ended
    cases ending with
    | strange sent _ header address command status notAck notNak complete =>
      refine ⟨sent, _, complete, ?_, sealed_answerBody _ _ _ _ _, ?_, ?_⟩
      · rw [length_answerBody]
        omega
      · exact fun first => notAck (Option.some.inj first)
      · exact fun first => notNak (Option.some.inj first)
  · rintro ⟨sent, body, complete, long, whole, notAck, notNak⟩
    obtain ⟨header, address, command, status, rfl⟩ := eq_answerBody_of_sealed _ body long whole
    exact outcome_of_ending controller packet budget
      (.strange sent unicast header address command status
        (fun same => notAck (congrArg some same)) (fun same => notNak (congrArg some same)) complete)

/-- Everything else is a broken frame: bytes that complete no frame, a frame without room for a
checksum behind its three leading bytes, and an acknowledgement with more status bytes than a packet
holds. -/
theorem exchange_framing_iff :
    (controller.exchange packet budget).outcome = .error .framing ↔
      controller.Takes ∧ controller.heard packet budget ≠ [] ∧
        ∀ body, Completes (controller.heard packet budget) body →
          body.length < 3 + (controller.variantOf packet).length ∨
          ∃ address command status, maxParams < status.length ∧
            body = answerBody (controller.variantOf packet)
              (Header.ack (controller.variantOf packet)).toByte address command status := by
  constructor
  · intro ended
    obtain ⟨_, -, ending⟩ := ending_of_outcome controller packet budget _ ended
    cases ending with
    | unfinished sent _ something incomplete =>
      exact ⟨sent, something, fun body complete => absurd complete (incomplete body)⟩
    | short sent _ body complete missing =>
      refine ⟨sent, complete.ne_nil, fun other completeOther => .inl ?_⟩
      rwa [completeOther.unique complete]
    | overlong sent _ address command status tooMany complete =>
      exact ⟨sent, complete.ne_nil, fun other completeOther =>
        .inr ⟨address, command, status, tooMany, completeOther.unique complete⟩⟩
  · rintro ⟨sent, something, frames⟩
    by_cases complete : ∃ body, Completes (controller.heard packet budget) body
    case neg =>
      exact outcome_of_ending controller packet budget
        (.unfinished sent unicast something fun body completed => complete ⟨body, completed⟩)
    obtain ⟨body, complete⟩ := complete
    rcases frames body complete with missing | ⟨address, command, status, tooMany, rfl⟩
    · exact outcome_of_ending controller packet budget (.short sent unicast body complete missing)
    · exact outcome_of_ending controller packet budget
        (.overlong sent unicast address command status tooMany complete)

end Outcomes

/-- **Classification of every exchange with one node.** -/
theorem exchange_classified (controller : Controller) (packet : Packet) (budget : Nat)
    (unicast : packet.isBroadcast = false) :
    let variant := controller.variantOf packet
    let ack := (Header.ack variant).toByte
    let nak := (Header.nak variant).toByte
    let heard := controller.heard packet budget
    let sent := controller.exchange packet budget
    (∀ status, sent.outcome = .ok () ∧ sent.packet.status.items = status ↔
      controller.Takes ∧ status.length ≤ maxParams ∧
        ∃ address command, Completes heard (answerBody variant ack address command status)) ∧
    (sent.outcome = .error .txTimeout ↔ ¬ controller.Takes) ∧
    (sent.outcome = .error .rxTimeout ↔ controller.Takes ∧ heard = []) ∧
    (sent.outcome = .error .crc ↔ controller.Takes ∧ ∃ body, Completes heard body ∧
      3 + variant.length ≤ body.length ∧ ¬ variant.Sealed body) ∧
    (sent.outcome = .error .nak ↔ controller.Takes ∧ ∃ body, Completes heard body ∧
      3 + variant.length ≤ body.length ∧ variant.Sealed body ∧ body.head? = some nak) ∧
    (sent.outcome = .error .format ↔ controller.Takes ∧ ∃ body, Completes heard body ∧
      3 + variant.length ≤ body.length ∧ variant.Sealed body ∧
      body.head? ≠ some ack ∧ body.head? ≠ some nak) ∧
    (sent.outcome = .error .framing ↔ controller.Takes ∧ heard ≠ [] ∧
      ∀ body, Completes heard body → body.length < 3 + variant.length ∨
        ∃ address command status, maxParams < status.length ∧
          body = answerBody variant ack address command status) ∧
    sent.outcome ≠ .error .invalidParam :=
  ⟨exchange_ok_iff controller packet budget unicast,
    exchange_txTimeout_iff controller packet budget,
    exchange_rxTimeout_iff controller packet budget unicast,
    exchange_crc_iff controller packet budget unicast,
    exchange_nak_iff controller packet budget unicast,
    exchange_format_iff controller packet budget unicast,
    exchange_framing_iff controller packet budget unicast,
    exchange_ne_invalidParam controller packet budget⟩

/-- A bus on which the next request is answered by an acknowledgement, behind the start of a frame that
is started over and a noise byte. -/
def noisyAcknowledgement : Bus where
  script := [{ bytes := [0x02, 0x55, 0x02, 0x00, 0xC1, 0x10, 0x07, 0x77, 0xE9, 0x03] }]

theorem noisyAcknowledgement_accepted :
    let controller : Controller := { bus := noisyAcknowledgement }
    let packet : Packet := { address := 0x10, command := 0x07 }
    packet.isBroadcast = false ∧ (controller.exchange packet 250).outcome = .ok () ∧
      (controller.exchange packet 250).packet.status.items = [0x77] := by
  intro controller packet
  have classified := exchange_classified controller packet 250 (by decide)
  exact ⟨by decide, (classified.1 [0x77]).mpr
    ⟨by decide, by decide, 0x10, 0x07, by decide +kernel⟩⟩

end NodeBus.Controller
