import Mathlib
import NodeBus.Proofs.InterruptFrames
import NodeBus.Proofs.Session

/-!
# Which idle input is a request

A burst keeps a limited number of bytes. Every byte read takes it closer to that limit, or is an escape whose
partner does (`Burst.reach_feed`), so its collection is over after 513 reads at the latest, however the bytes
come. Nobody has asked for attention unless the reads were, byte by byte, a frame of a request
(`requests_recognized`).
-/
namespace NodeBus

namespace InterruptRequest

/-- The body of a request, byte by byte. -/
def spelled (request : InterruptRequest) : List UInt8 :=
  match request.variant with
  | .crc8 => [0x02, request.address, Checksum.crc8 [0x02, request.address]]
  | .crc16 =>
    let check := Checksum.crc16 [0x03, request.address]
    [0x03, request.address, check.toUInt8, (check >>> 8).toUInt8]

theorem body_eq_spelled (request : InterruptRequest) : request.body = request.spelled := by
  obtain ⟨address, variant⟩ := request
  cases variant with
  | crc8 => rfl
  | crc16 => rfl

/-- What arrived are bytes without a failing read among them: the start marker, what stands for the body of
the request, and the end marker. -/
def Arrives (request : InterruptRequest) (arrived : List Arrival) : Prop :=
  ∃ wire, arrived.map Arrival.item = (Escape.stx :: wire ++ [Escape.etx]).map .byte ∧
    Escape.Unescapes wire request.spelled

theorem arrives_iff (request : InterruptRequest) (arrived : List Arrival) :
    request.Arrives arrived ↔
      ∃ frame, request.FramedAs frame ∧ arrived.map Arrival.item = frame.map .byte := by
  unfold Arrives FramedAs
  rw [request.body_eq_spelled]
  constructor
  · intro arrives
    obtain ⟨wire, items, stands⟩ := arrives
    exact ⟨_, ⟨wire, rfl, stands⟩, items⟩
  · intro framed
    obtain ⟨frame, ⟨wire, whole, stands⟩, items⟩ := framed
    exact ⟨wire, whole ▸ items, stands⟩

end InterruptRequest

/-! ### The limit of a burst -/

namespace Burst

/-- What a byte that does not end the frame does to a burst with room for it. -/
inductive Fed (burst : Burst) (byte : UInt8) : Burst → Prop
  | start (empty : burst.phase = .empty) : Fed burst byte { burst with phase := .frame }
  | escape (inside : burst.phase = .frame) : Fed burst byte { burst with phase := .escaped }
  | keep (inside : burst.phase = .frame ∨ burst.phase = .escaped) :
      Fed burst byte { phase := .frame, bytes := burst.bytes ++ [byte] }
  | noise (outside : burst.phase = .empty ∨ burst.phase = .noise) :
      Fed burst byte { phase := .noise, bytes := burst.bytes ++ [byte] }

theorem fed_of_feed {burst next : Burst} {byte : UInt8} (room : burst.bytes.length < maxBurst)
    (fed : burst.feed byte = (next, false)) : Fed burst byte next := by
  obtain ⟨phase, bytes⟩ := burst
  have stored := store_of_room ⟨phase, bytes⟩ byte room
  unfold feed at fed
  rw [stored] at fed
  cases phase with
  | empty =>
    dsimp only at fed
    split at fed
    · exact (Prod.mk.inj fed).1 ▸ .start rfl
    · exact (Prod.mk.inj fed).1 ▸ .noise (.inl rfl)
  | frame =>
    dsimp only at fed
    split at fed
    · cases fed
    · split at fed
      · exact (Prod.mk.inj fed).1 ▸ .escape rfl
      · exact (Prod.mk.inj fed).1 ▸ .keep (.inl rfl)
  | escaped => exact (Prod.mk.inj fed).1 ▸ .keep (.inr rfl)
  | noise => exact (Prod.mk.inj fed).1 ▸ .noise (.inr rfl)

/-- How many more bytes are collected at most. Inside a frame each stored byte may cost an escape. -/
def reach (burst : Burst) : Nat :=
  match burst.phase with
  | .empty => 2 * (maxBurst - burst.bytes.length) + 1
  | .frame => 2 * (maxBurst - burst.bytes.length)
  | .escaped => 2 * (maxBurst - burst.bytes.length) - 1
  | .noise => maxBurst - burst.bytes.length

theorem reach_pos (burst : Burst) (room : burst.bytes.length < maxBurst) : 0 < burst.reach := by
  unfold reach
  split <;> omega

/-- Every byte that does not end the frame uses up reach. -/
theorem reach_feed {burst next : Burst} {byte : UInt8} (room : burst.bytes.length < maxBurst)
    (fed : burst.feed byte = (next, false)) :
    next.bytes.length ≤ maxBurst ∧ next.reach < burst.reach := by
  have grown : (burst.bytes ++ [byte]).length = burst.bytes.length + 1 := List.length_append
  cases fed_of_feed room fed with
  | start empty =>
    simp only [reach, empty]
    omega
  | escape inside =>
    simp only [reach, inside]
    omega
  | keep inside =>
    rcases inside with plain | escaped
    · simp only [reach, plain, grown]
      omega
    · simp only [reach, escaped, grown]
      omega
  | noise outside =>
    rcases outside with first | later
    · simp only [reach, first, grown]
      omega
    · simp only [reach, later, grown]
      omega

end Burst

namespace Controller

/-- A burst that is collected further is not full, and has less reach. -/
theorem reach_hearBurst {burst next : Burst} {byte : UInt8} (room : burst.bytes.length < maxBurst)
    (goesOn : hearBurst burst byte = .more next) :
    next.bytes.length < maxBurst ∧ next.reach < burst.reach := by
  unfold hearBurst at goesOn
  rcases fed : burst.feed byte with ⟨after, complete⟩
  rw [fed] at goesOn
  cases complete with
  | true => cases goesOn
  | false =>
    dsimp only at goesOn
    split at goesOn
    case isTrue => cases goesOn
    case isFalse notFull =>
      have same : after = next := Hearing.more.inj goesOn
      subst same
      have notFull : after.bytes.length ≠ maxBurst := by simpa [Burst.isFull] using notFull
      obtain ⟨within, used⟩ := Burst.reach_feed room fed
      exact ⟨by omega, used⟩

/-- No more bytes are taken than the burst has reach. When it is not over by then, one more read may fail. -/
theorem taken_hearAll_hearBurst (burst : Burst) (heard : List UInt8) (room : burst.bytes.length < maxBurst) :
    (hearAll hearBurst burst heard).2 ≤ burst.reach ∧
      ∀ final, (hearAll hearBurst burst heard).1 = .more final →
        (hearAll hearBurst burst heard).2 < burst.reach := by
  induction heard generalizing burst with
  | nil => exact ⟨Nat.zero_le _, fun _ _ => burst.reach_pos room⟩
  | cons byte rest ih =>
    simp only [hearAll]
    cases hears : hearBurst burst byte with
    | enough result =>
      refine ⟨burst.reach_pos room, ?_⟩
      intro final more
      cases more
    | more next =>
      obtain ⟨left, used⟩ := reach_hearBurst room hears
      obtain ⟨most, unfinished⟩ := ih next left
      refine ⟨by dsimp only; omega, fun final more => ?_⟩
      have fewer := unfinished final more
      dsimp only
      omega

/-! ### What is read -/

/-- What the collection on the idle bus comes to. -/
def collected (controller : Controller) : Option InterruptRequest × Bus :=
  collectBurst controller.bus controller.settings.timing.interruptGap

/-- What servicing the idle bus makes of what it reads from the queue. -/
structure Recognition (controller : Controller) (read : List Arrival) : Prop where
  /-- What is read stood at the front of the queue, and all that stood behind it stays there. -/
  taken : controller.bus.queue = read ++ controller.collected.2.queue
  limit : read.length ≤ 2 * maxBurst + 1
  steady : Steady controller.settings.timing.interruptGap controller.bus.now read
  /-- A request is accepted exactly if its frame, and nothing else, was read. -/
  accepted_iff : ∀ request, controller.collected.1 = some request ↔ request.Arrives read
  /-- A frame that stands at the front of the queue and comes steadily is what is read. -/
  offered : ∀ front, front <+: controller.bus.queue →
    Steady controller.settings.timing.interruptGap controller.bus.now front →
    ∀ request, InterruptRequest.Arrives request front → read = front
  /-- Collecting writes nothing. -/
  port : controller.collected.2.script = controller.bus.script ∧
    controller.collected.2.written = controller.bus.written
  answered : ∀ request, controller.collected.1 = some request →
    controller.serviceInterrupt.1.map Interrupt.address = some request.address
  /-- Whatever else was read is counted once, and otherwise forgotten. -/
  spurious : (∀ request, ¬ InterruptRequest.Arrives request read) →
    controller.serviceInterrupt = (none, { controller with
      bus := controller.collected.2
      statistics.spuriousPackets := controller.statistics.spuriousPackets + 1 })

/-- The collector's reads, a failing one included, are limited by the reach of the empty burst. -/
theorem length_read_le {read failed : List Arrival} {heard : List UInt8}
    (items : read.map Arrival.item = (heard.take (hearAll hearBurst {} heard).2).map .byte)
    (ended : failed = [] ∨ failed.map Arrival.item = [.fault] ∧
      ∃ final, (hearAll hearBurst {} heard).1 = .more final) :
    (read ++ failed).length ≤ 2 * maxBurst + 1 := by
  have room : (Burst.mk .empty []).bytes.length < maxBurst := by decide
  obtain ⟨most, unfinished⟩ := taken_hearAll_hearBurst {} heard room
  have reach : (Burst.mk .empty []).reach = 2 * maxBurst + 1 := rfl
  have bytes := congrArg List.length items
  rw [List.length_map, List.length_map, List.length_take] at bytes
  rw [List.length_append]
  rcases ended with nothing | ⟨fault, final, more⟩
  · rw [nothing, List.length_nil]
    omega
  · have once := congrArg List.length fault
    rw [List.length_map, List.length_singleton] at once
    have fewer := unfinished final more
    omega

/-- A frame that can be heard is all that the collector hears, and it has heard enough then. -/
theorem hearAll_hearBurst_of_framed {request : InterruptRequest} {frame heard : List UInt8}
    (framed : request.FramedAs frame) (first : frame <+: heard) :
    heard.take (hearAll hearBurst {} heard).2 = frame ∧
      ∀ final, (hearAll hearBurst {} heard).1 ≠ .more final := by
  obtain ⟨wire, spelled, stands⟩ := framed
  obtain ⟨rest, split⟩ := first
  have whole := hearAll_hearBurst_whole stands request.length_body_lt rest
  rw [← spelled, split] at whole
  rw [whole]
  constructor
  · rw [← split]
    exact List.take_left
  · intro final more
    cases more

/-- Servicing the idle bus answers a request with an interrupt of the same address, and counts all else. -/
theorem serviceInterrupt_of_collected (controller : Controller) :
    (∀ request, controller.collected.1 = some request →
      controller.serviceInterrupt.1.map Interrupt.address = some request.address) ∧
    (controller.collected.1 = none → controller.serviceInterrupt = (none, { controller with
      bus := controller.collected.2
      statistics := controller.statistics.spurious })) := by
  have recognized : controller.accepted .serviceInterrupt = controller.collected.1 := rfl
  rcases controller.serviceInterrupt_cases with ⟨rejected, -, result⟩ | ⟨found, accepted, -, result⟩
  · rw [← recognized, result, prepared, rejected]
    constructor
    · intro request some
      cases some
    · intro none
      rfl
  · rw [← recognized, accepted, result]
    constructor
    · intro request some
      exact congrArg (fun request => request.map InterruptRequest.address) some
    · intro none
      cases none

/-- **Nothing but the frame of a request is taken for one**, and none that comes steadily is missed. -/
theorem requests_recognized (controller : Controller) : ∃ read, controller.Recognition read := by
  let bus := controller.bus
  let gap := controller.settings.timing.interruptGap
  obtain ⟨read, failed, split, steady, items, ended⟩ := listenTo_read gap hearBurst {} bus.now bus.queue
  rw [← collectBurst_left] at split
  -- the listener has heard enough of a frame, so that no failing read stands behind it
  have readOf : ∀ request frame, InterruptRequest.FramedAs request frame → frame <+: bus.audible gap →
      (read ++ failed).map Arrival.item = frame.map .byte := by
    intro request frame framed first
    obtain ⟨exact, enough⟩ := hearAll_hearBurst_of_framed framed first
    rcases ended with nothing | ⟨-, final, more⟩
    · rw [nothing, List.append_nil, items]
      exact congrArg (List.map Item.byte) exact
    · exact absurd more (enough final)
  have accepted_iff : ∀ request, controller.collected.1 = some request ↔
      request.Arrives (read ++ failed) := by
    intro request
    have heard : controller.collected.1 = some request ↔
        ∃ frame, request.FramedAs frame ∧ frame <+: bus.audible gap :=
      collectBurst_eq_some_iff bus gap request
    rw [heard, request.arrives_iff]
    refine exists_congr fun frame => and_congr_right fun framed => ⟨?_, ?_⟩
    · exact readOf request frame framed
    · exact audible_of_steady gap ⟨_, split.symm⟩ steady
  refine ⟨read ++ failed, ?_⟩
  exact {
    taken := split
    limit := length_read_le items ended
    steady
    accepted_iff
    offered := by
      intro front first inTime request arrives
      obtain ⟨frame, framed, bytes⟩ := (request.arrives_iff front).mp arrives
      have same := readOf request frame framed (audible_of_steady gap first inTime bytes)
      have length := congrArg List.length (same.trans bytes.symm)
      rw [List.length_map, List.length_map] at length
      exact (List.prefix_of_prefix_length_le ⟨_, split.symm⟩ first length.le).eq_of_length length
    port := collectBurst_port bus gap
    answered := controller.serviceInterrupt_of_collected.1
    spurious := by
      intro other
      have rejected : controller.collected.1 = none := by
        by_contra accepted
        obtain ⟨request, some⟩ := Option.ne_none_iff_exists'.mp accepted
        exact other request ((accepted_iff request).mp some)
      exact controller.serviceInterrupt_of_collected.2 rejected }

end Controller

end NodeBus
