import Mathlib
import NodeBus.Proofs.Retries

/-!
# Statistics are conserved

What is counted are events: the attempts of a send, those that ask a node for the reason of its interrupt, and
the bursts of idle input that were no interrupt frame. An operation that does not start the counters over
counts its events one by one and changes nothing else in the statistics (`statistics_perform`). So whatever
was taken over a run, together with what the counters still hold, is what happened in it, up to wrapping
around (`statistics_conserved`).

Reading the statistics, the settings or what is known about a node gives back a part of the controller and
is no operation of a run.
-/
namespace NodeBus

/-- The eight counters. -/
inductive Counter where
  | roundTrips | spuriousPackets | rxTimeouts | txTimeouts | crcErrors | framingErrors | formatErrors | naks
  deriving DecidableEq, Repr

/-- What a counter shows. -/
def Statistics.read (statistics : Statistics) : Counter → UInt32
  | .roundTrips => statistics.roundTrips
  | .spuriousPackets => statistics.spuriousPackets
  | .rxTimeouts => statistics.rxTimeouts
  | .txTimeouts => statistics.txTimeouts
  | .crcErrors => statistics.crcErrors
  | .framingErrors => statistics.framingErrors
  | .formatErrors => statistics.formatErrors
  | .naks => statistics.naks

/-- The counter of attempts with this outcome. There is none for malformed requests. -/
def Counter.ofOutcome? : Outcome → Option Counter
  | .ok () => some .roundTrips
  | .error .rxTimeout => some .rxTimeouts
  | .error .txTimeout => some .txTimeouts
  | .error .crc => some .crcErrors
  | .error .framing => some .framingErrors
  | .error .format => some .formatErrors
  | .error .nak => some .naks
  | .error .invalidParam => none

/-- Something that is counted: an attempt, or a burst of idle input that was no interrupt frame. -/
inductive Event where
  | attempt (transaction : Transaction)
  | spurious

/-- The counter an event belongs to. -/
def Event.counter? : Event → Option Counter
  | .attempt transaction => Counter.ofOutcome? transaction.sent.outcome
  | .spurious => some .spuriousPackets

/-- Every attempt has a counter: a malformed request never comes to an attempt. -/
theorem Event.counter?_isSome (event : Event) : event.counter?.isSome = true := by
  cases event with
  | spurious => rfl
  | attempt transaction =>
    have legal : transaction.sent.outcome ≠ .error .invalidParam :=
      Controller.exchange_ne_invalidParam _ _ _
    rw [counter?]
    generalize transaction.sent.outcome = outcome at legal
    rcases outcome with error | ⟨⟩
    · cases error with
      | invalidParam => exact absurd rfl legal
      | _ => rfl
    · rfl

/-! ### Counting events -/

namespace Statistics

/-- Counts one event. -/
def count (statistics : Statistics) : Event → Statistics
  | .attempt transaction => statistics.record transaction.sent.outcome
  | .spurious => statistics.spurious

theorem read_record (statistics : Statistics) (outcome : Outcome) (counter : Counter) :
    (statistics.record outcome).read counter =
      statistics.read counter + if Counter.ofOutcome? outcome = some counter then 1 else 0 := by
  rcases outcome with error | ⟨⟩
  · cases error <;> cases counter <;> simp [record, read, Counter.ofOutcome?]
  · cases counter <;> simp [record, read, Counter.ofOutcome?]

/-- An event moves its own counter and no other. -/
theorem read_count (statistics : Statistics) (event : Event) (counter : Counter) :
    (statistics.count event).read counter =
      statistics.read counter + if event.counter? = some counter then 1 else 0 := by
  cases event with
  | attempt transaction => exact statistics.read_record _ counter
  | spurious => cases counter <;> simp [count, spurious, read, Event.counter?]

/-- A counter moves by the number of its events, and wraps around. -/
theorem read_foldl_count (statistics : Statistics) (events : List Event) (counter : Counter) :
    ((events.foldl count statistics).read counter).toNat ≡
      (statistics.read counter).toNat + events.countP (·.counter? = some counter) [MOD 2 ^ 32] := by
  induction events generalizing statistics with
  | nil => rfl
  | cons event rest ih =>
    have counted : ((statistics.count event).read counter).toNat ≡
        (statistics.read counter).toNat + (if event.counter? = some counter then 1 else 0) [MOD 2 ^ 32] := by
      rw [read_count, UInt32.toNat_add]
      split <;> exact Nat.mod_modEq _ _
    calc ((rest.foldl count (statistics.count event)).read counter).toNat
      _ ≡ ((statistics.count event).read counter).toNat + rest.countP (·.counter? = some counter)
          [MOD 2 ^ 32] := ih _
      _ ≡ (statistics.read counter).toNat + (if event.counter? = some counter then 1 else 0) +
          rest.countP (·.counter? = some counter) [MOD 2 ^ 32] := counted.add_right _
      _ = (statistics.read counter).toNat + (event :: rest).countP (·.counter? = some counter) := by
        rw [List.countP_cons]
        simp only [decide_eq_true_eq]
        omega

end Statistics

/-! ### One operation -/

namespace Controller

/-- The events of an operation, in order. -/
def events (controller : Controller) : Operation → List Event
  | .send packet => (controller.sendAttempts packet).map .attempt
  | .serviceInterrupt =>
    match controller.serviceInterrupt.1 with
    | none => [.spurious]
    | some _ => (controller.transactions .serviceInterrupt).map .attempt
  | .exchange _ _ | .scan | .enumerate | .raw _ | .configure _ | .takeStatistics => []

/-- The snapshot an operation returns, if it starts the counters over. -/
def snapshot (controller : Controller) : Operation → List Statistics
  | .takeStatistics => [controller.takeStatistics.1]
  | _ => []

theorem statistics_persist (retries : Nat) (controller : Controller) (packet : Packet) :
    (persist retries controller packet).controller.statistics =
      ((attempts retries controller packet).map .attempt).foldl Statistics.count controller.statistics := by
  induction retries generalizing controller packet with
  | zero => rfl
  | succ retries ih =>
    rcases persist_cases retries controller packet with ⟨_, run, made⟩ | ⟨_, _, _, run, made⟩
    · rw [run, made]
      rfl
    · rw [run, made, ih]
      rfl

theorem statistics_scanOver (controller : Controller) (found : NodeList) (addresses : List UInt8) :
    (controller.scanOver found addresses).2.2.statistics = controller.statistics := by
  induction addresses generalizing controller found with
  | nil => rfl
  | cons address rest ih =>
    rcases controller.scanOver_cases found address rest with
      ⟨_, scanned, _⟩ | ⟨_, _, scanned, _⟩ | ⟨_, _, _, scanned, _⟩ | ⟨_, _, _, scanned, _⟩
    · rw [scanned]
      rfl
    · rw [scanned]
      rfl
    · rw [scanned]
      exact ih _ _
    · rw [scanned]
      exact ih _ _

theorem statistics_raw (controller : Controller) (request : RawRequest) :
    (controller.raw request).2.statistics = controller.statistics := by
  unfold raw
  split
  · rfl
  · rcases controller.bus.write request.txTimeout.toNat request.tx.items with ⟨_ | _, bus⟩ <;> rfl

/-- **What an operation counts** are its events, each once. -/
theorem statistics_perform (controller : Controller) (operation : Operation)
    (keeps : operation ≠ .takeStatistics) :
    (controller.perform operation).statistics =
      (controller.events operation).foldl Statistics.count controller.statistics := by
  cases operation with
  | exchange | enumerate | configure => rfl
  | takeStatistics => exact absurd rfl keeps
  | send packet => exact statistics_persist _ controller packet
  | scan => exact controller.statistics_scanOver _ _
  | raw request => exact controller.statistics_raw request
  | serviceInterrupt =>
    rw [perform, events]
    rcases controller.serviceInterrupt_cases with ⟨-, -, result⟩ | ⟨request, -, made, result⟩
    · rw [result]
      rfl
    · rw [made, result]
      exact statistics_persist _ (controller.prepared .serviceInterrupt) (interruptQuery request.address)

theorem snapshot_eq_nil (controller : Controller) {operation : Operation}
    (keeps : operation ≠ .takeStatistics) : controller.snapshot operation = [] := by
  cases operation with
  | takeStatistics => exact absurd rfl keeps
  | _ => rfl

/-- What one operation preserves. -/
theorem conserved_perform (controller : Controller) (operation : Operation) (counter : Counter) :
    ((controller.perform operation).statistics.read counter).toNat +
        ((controller.snapshot operation).map fun taken => (taken.read counter).toNat).sum ≡
      (controller.statistics.read counter).toNat +
        (controller.events operation).countP (·.counter? = some counter) [MOD 2 ^ 32] := by
  by_cases taken : operation = .takeStatistics
  · subst taken
    have startsOver : (controller.perform .takeStatistics).statistics.read counter = 0 := by
      cases counter <;> rfl
    rw [startsOver]
    simp [snapshot, takeStatistics, events, Nat.ModEq]
  · rw [controller.snapshot_eq_nil taken, controller.statistics_perform operation taken]
    exact Statistics.read_foldl_count _ _ counter

/-! ### Runs -/

/-- The events of a run, in order. -/
def eventsOver (controller : Controller) (steps : List Step) : List Event :=
  (controller.operations steps).flatMap fun (started, operation) => started.events operation

/-- The snapshots that a run returned, oldest first. -/
def snapshotsOver (controller : Controller) (steps : List Step) : List Statistics :=
  (controller.operations steps).flatMap fun (started, operation) => started.snapshot operation

/-- What a run preserves. -/
theorem conserved_after (controller : Controller) (steps : List Step) (counter : Counter) :
    ((controller.after steps).statistics.read counter).toNat +
        ((controller.snapshotsOver steps).map fun taken => (taken.read counter).toNat).sum ≡
      (controller.statistics.read counter).toNat +
        (controller.eventsOver steps).countP (·.counter? = some counter) [MOD 2 ^ 32] := by
  induction steps generalizing controller with
  | nil => rfl
  | cons step rest ih =>
    cases step with
    | wait | expect | arrive => exact ih _
    | operate operation =>
      have now := controller.conserved_perform operation counter
      have later := ih (controller.perform operation)
      have events : controller.eventsOver (.operate operation :: rest) =
          controller.events operation ++ (controller.perform operation).eventsOver rest := List.flatMap_cons
      have snapshots : controller.snapshotsOver (.operate operation :: rest) =
          controller.snapshot operation ++ (controller.perform operation).snapshotsOver rest :=
        List.flatMap_cons
      rw [events, snapshots, List.countP_append, List.map_append, List.sum_append]
      change (((controller.perform operation).after rest).statistics.read counter).toNat + _ ≡ _ [MOD 2 ^ 32]
      -- what the first operation left in the counter stands on both sides
      apply Nat.ModEq.add_left_cancel' ((controller.perform operation).statistics.read counter).toNat
      have both := later.add now
      unfold Nat.ModEq at both ⊢
      omega

/-- What the law of conservation says of a run. -/
structure ConservationLaw (started : Controller) (steps : List Step) : Prop where
  /-- What a counter holds and what was taken from it is the number of its events. -/
  conserved : ∀ counter, ((started.after steps).statistics.read counter).toNat +
      ((started.snapshotsOver steps).map fun taken => (taken.read counter).toNat).sum ≡
    (started.eventsOver steps).countP (·.counter? = some counter) [MOD 2 ^ 32]
  /-- Every event has a counter, so none is lost. -/
  counted : ∀ event ∈ started.eventsOver steps, ∃ counter, event.counter? = some counter
  /-- Only taking the statistics starts them over. Any other operation counts its events, and nothing else. -/
  tallied : ∀ controller operation, (controller, operation) ∈ started.operations steps →
    (operation = .takeStatistics ∧ (controller.perform operation).statistics = {} ∧
      controller.snapshot operation = [controller.statistics]) ∨
    (controller.perform operation).statistics =
        (controller.events operation).foldl Statistics.count controller.statistics ∧
      controller.snapshot operation = []
  /-- The exchanges of an operation are those that lead from what it prepared to what it leaves. -/
  made : ∀ controller operation, (controller, operation) ∈ started.operations steps →
    Consecutive (controller.prepared operation) (controller.transactions operation)
      (controller.perform operation)

/-- **Statistics are conserved** over every run of a new controller. -/
theorem statistics_conserved (settings : BusSettings) (bus : Bus) (steps : List Step) :
    ConservationLaw { settings, bus } steps := by
  constructor
  case conserved =>
    intro counter
    have balance := conserved_after { settings, bus } steps counter
    have zero : (({} : Statistics).read counter).toNat = 0 := by cases counter <;> rfl
    rwa [zero, Nat.zero_add] at balance
  case counted => exact fun event _ => Option.isSome_iff_exists.mp event.counter?_isSome
  case tallied =>
    intro controller operation _
    by_cases taken : operation = .takeStatistics
    · subst taken
      exact .inl ⟨rfl, rfl, rfl⟩
    · exact .inr ⟨controller.statistics_perform operation taken, controller.snapshot_eq_nil taken⟩
  case made => exact fun controller operation _ => controller.consecutive_transactions operation

end Controller

end NodeBus
