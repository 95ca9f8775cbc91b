import Mathlib
import NodeBus.Proofs.Attempts

/-!
# Runs of the controller

A run is a list of steps: operations of the controller, and what the bus does between them. `history` lists
every exchange that a run makes, in order and with the controller it started from. Every node that a scan
lists is traced back to the query it answered (`mem_scanOver`), and the exchanges of an operation follow one
upon the other (`consecutive_transactions`).

Nothing flushes the queue between two exchanges. As long as no other operation reads from it and no node
speaks up on its own, each exchange of a run finds in the queue exactly what the exchange before it left
there (`chained_history`).
-/
namespace NodeBus

/-- What the controller can be asked to do. -/
inductive Controller.Operation where
  | exchange (packet : Packet) (budget : Nat)
  | send (packet : Packet)
  | scan
  | enumerate
  | raw (request : RawRequest)
  | serviceInterrupt
  | configure (settings : BusSettings)
  | takeStatistics

/-- One step of a run. Nodes are told what to answer to the next writes, or speak up on their own. -/
inductive Controller.Step where
  | operate (operation : Controller.Operation)
  | wait (milliseconds : Nat)
  | expect (replies : List Reply)
  | arrive (reply : Reply)

/-- Only exchanges take from the queue or add to it. -/
def Controller.Step.leavesQueue : Controller.Step → Bool
  | .operate (.raw _) | .operate .serviceInterrupt | .arrive _ => false
  | _ => true

namespace Controller

/-- The controller after an operation. -/
def perform (controller : Controller) : Operation → Controller
  | .exchange packet budget => (controller.exchange packet budget).controller
  | .send packet => (controller.send packet).controller
  | .scan => controller.scan.2.2
  | .enumerate => controller.enumerate.controller
  | .raw request => (controller.raw request).2
  | .serviceInterrupt => controller.serviceInterrupt.2
  | .configure settings => controller.configure settings
  | .takeStatistics => controller.takeStatistics.2

/-- The controller after a step. -/
def step (controller : Controller) : Step → Controller
  | .operate operation => controller.perform operation
  | .wait milliseconds => { controller with bus := controller.bus.pause milliseconds }
  | .expect replies => { controller with bus := controller.bus.expect replies }
  | .arrive reply => { controller with bus := controller.bus.deliver reply }

/-- The controller after a run. -/
def after (controller : Controller) (steps : List Step) : Controller := steps.foldl step controller

/-- The operations of a run, each with the controller it started from. -/
def operations : Controller → List Step → List (Controller × Operation)
  | _, [] => []
  | controller, .operate operation :: rest =>
    (controller, operation) :: operations (controller.perform operation) rest
  | controller, other :: rest => operations (controller.step other) rest

/-- The request that an operation accepts. -/
def accepted (controller : Controller) : Operation → Option InterruptRequest
  | .serviceInterrupt => (collectBurst controller.bus controller.settings.timing.interruptGap).1
  | _ => none

/-- The query a scan begins with at an address. -/
def scanQuery (controller : Controller) (address : UInt8) : Transaction where
  controller
  packet := identifyQuery address
  budget := controller.settings.timing.scanResponse

/-- The exchanges made by querying addresses, in order. -/
def scanQueries (controller : Controller) (found : NodeList) : List UInt8 → List Transaction
  | [] => []
  | address :: rest =>
    controller.scanQuery address ::
      match (controller.scanQuery address).sent.outcome with
      | .ok () =>
        match found.push? (.ofStatus address (controller.scanQuery address).sent.packet.status.items) with
        | none => []
        | some found => scanQueries (controller.scanQuery address).sent.controller found rest
      | .error .txTimeout => []
      | .error _ => scanQueries (controller.scanQuery address).sent.controller found rest

/-- The exchanges that an operation makes, in order. -/
def transactions (controller : Controller) : Operation → List Transaction
  | .exchange packet budget => [{ controller, packet, budget }]
  | .send packet => controller.sendAttempts packet
  | .scan => controller.scanQueries .empty (scanAddresses controller.settings)
  | .enumerate =>
    [controller.firstTransaction { address := broadcastAddress, command := announceCommand }]
  | .serviceInterrupt =>
    match collectBurst controller.bus controller.settings.timing.interruptGap with
    | (none, _) => []
    | (some request, bus) =>
      let nodes := controller.nodes.heardInterrupt request.address request.variant
      { controller with bus, nodes }.sendAttempts (interruptQuery request.address)
  | .raw _ | .configure _ | .takeStatistics => []

/-- The exchanges that a run makes, in order. -/
def history (controller : Controller) (steps : List Step) : List Transaction :=
  (controller.operations steps).flatMap fun (started, operation) => started.transactions operation

end Controller

/-! ### Scanning address by address -/

theorem Bounded.items_of_push? {α : Type} {capacity : Nat} {list longer : Bounded α capacity} {item : α}
    (pushed : list.push? item = some longer) : longer.items = list.items ++ [item] := by
  unfold Bounded.push? at pushed
  split at pushed
  · obtain rfl := Option.some.inj pushed
    rfl
  · cases pushed

namespace Controller

/-- A query that could not be written ends the scan, and so does a node that finds no room in the list.
Otherwise the scan goes on, with the node if it answered. -/
theorem scanOver_cases (controller : Controller) (found : NodeList) (address : UInt8)
    (rest : List UInt8) :
    let query := controller.scanQuery address
    let node := NodeInfo.ofStatus address query.sent.packet.status.items
    (query.sent.outcome = .error .txTimeout ∧
      controller.scanOver found (address :: rest) = (.error .txTimeout, found, query.sent.controller) ∧
      controller.scanQueries found (address :: rest) = [query]) ∨
    (query.sent.outcome = .ok () ∧ found.push? node = none ∧
      controller.scanOver found (address :: rest) = (.ok (), found, query.sent.controller) ∧
      controller.scanQueries found (address :: rest) = [query]) ∨
    (∃ longer, query.sent.outcome = .ok () ∧ found.push? node = some longer ∧
      controller.scanOver found (address :: rest) = query.sent.controller.scanOver longer rest ∧
      controller.scanQueries found (address :: rest) =
        query :: query.sent.controller.scanQueries longer rest) ∨
    (∃ error, query.sent.outcome = .error error ∧ error ≠ .txTimeout ∧
      controller.scanOver found (address :: rest) = query.sent.controller.scanOver found rest ∧
      controller.scanQueries found (address :: rest) =
        query :: query.sent.controller.scanQueries found rest) := by
  intro query node
  have scanned : controller.scanOver found (address :: rest) =
      match query.sent.outcome with
      | .ok () =>
        match found.push? node with
        | none => (.ok (), found, query.sent.controller)
        | some found => query.sent.controller.scanOver found rest
      | .error .txTimeout => (.error .txTimeout, found, query.sent.controller)
      | .error _ => query.sent.controller.scanOver found rest := by
    rw [scanOver]
    rfl
  have queries : controller.scanQueries found (address :: rest) = query ::
      match query.sent.outcome with
      | .ok () =>
        match found.push? node with
        | none => []
        | some found => query.sent.controller.scanQueries found rest
      | .error .txTimeout => []
      | .error _ => query.sent.controller.scanQueries found rest := by
    rw [scanQueries]
  rw [scanned, queries]
  cases query.sent.outcome with
  | ok value =>
    cases found.push? node with
    | none => exact .inr (.inl ⟨rfl, rfl, rfl, rfl⟩)
    | some longer => exact .inr (.inr (.inl ⟨longer, rfl, rfl, rfl, rfl⟩))
  | error error =>
    by_cases untaken : error = .txTimeout
    · subst untaken
      exact .inl ⟨rfl, rfl, rfl⟩
    · refine .inr (.inr (.inr ⟨error, rfl, untaken, ?_, ?_⟩))
      · cases error <;> first | rfl | exact absurd rfl untaken
      · cases error <;> first | rfl | exact absurd rfl untaken

/-- Every node a scan lists, beyond those listed before, answered the query to its address. -/
theorem mem_scanOver (controller : Controller) (found : NodeList) (addresses : List UInt8)
    (node : NodeInfo) (listed : node ∈ (controller.scanOver found addresses).2.1.items) :
    node ∈ found.items ∨ ∃ query ∈ controller.scanQueries found addresses, ∃ address ∈ addresses,
      query.packet = identifyQuery address ∧ query.sent.outcome = .ok () ∧
        node = .ofStatus address query.sent.packet.status.items := by
  induction addresses generalizing controller found with
  | nil => exact .inl listed
  | cons address rest ih =>
    rcases controller.scanOver_cases found address rest with
      ⟨_, scanned, queries⟩ | ⟨_, _, scanned, queries⟩ | ⟨longer, success, pushed, scanned, queries⟩ |
      ⟨_, _, _, scanned, queries⟩
    · rw [scanned] at listed
      exact .inl listed
    · rw [scanned] at listed
      exact .inl listed
    · rw [scanned] at listed
      rw [queries]
      rcases ih _ _ listed with known | ⟨query, member, other, visited, answered⟩
      · rw [Bounded.items_of_push? pushed, List.mem_append, List.mem_singleton] at known
        rcases known with known | rfl
        · exact .inl known
        · exact .inr ⟨_, List.mem_cons_self, address, List.mem_cons_self, rfl, success, rfl⟩
      · exact .inr ⟨query, List.mem_cons_of_mem _ member, other, List.mem_cons_of_mem _ visited, answered⟩
    · rw [scanned] at listed
      rw [queries]
      rcases ih _ _ listed with known | ⟨query, member, other, visited, answered⟩
      · exact .inl known
      · exact .inr ⟨query, List.mem_cons_of_mem _ member, other, List.mem_cons_of_mem _ visited, answered⟩

/-- A scan never visits the broadcast address. -/
theorem scanAddresses_unicast (settings : BusSettings) (address : UInt8)
    (visited : address ∈ scanAddresses settings) : (identifyQuery address).isBroadcast = false := by
  obtain ⟨index, inRange, rfl⟩ := List.mem_map.mp visited
  have limit : settings.clamped.maxNodeAddress ≤ NodeBus.maxNodeAddress := by
    change (if settings.maxNodeAddress ≤ NodeBus.maxNodeAddress then _ else _) ≤ NodeBus.maxNodeAddress
    split
    · assumption
    · exact UInt8.le_refl _
  have bound : settings.clamped.maxNodeAddress.toNat ≤ 254 := limit
  have small : index ≤ 254 := by
    have := List.mem_range.mp inRange
    omega
  unfold Packet.isBroadcast
  rw [beq_eq_false_iff_ne, ne_eq, ← UInt8.toNat_inj]
  change ¬ (UInt8.ofNat index).toNat = 255
  rw [UInt8.toNat_ofNat']
  omega

end Controller

/-! ### Exchanges in a row -/

/-- The controllers differ in nothing but what they have counted. -/
def Controller.SameButCounts (one other : Controller) : Prop :=
  one.bus = other.bus ∧ one.nodes = other.nodes ∧ one.settings = other.settings

/-- The exchanges were made one after another, from one controller to another. Between two of them nothing
happens but counting. -/
def Consecutive (before : Controller) : List Transaction → Controller → Prop
  | [], after => before.SameButCounts after
  | transaction :: rest, after =>
    before.SameButCounts transaction.controller ∧ Consecutive transaction.sent.controller rest after

theorem Consecutive.of_same {before other after : Controller} {transactions : List Transaction}
    (same : before.SameButCounts other) (consecutive : Consecutive other transactions after) :
    Consecutive before transactions after := by
  obtain ⟨bus, nodes, settings⟩ := same
  cases transactions with
  | nil =>
    obtain ⟨busAfter, nodesAfter, settingsAfter⟩ := consecutive
    exact ⟨bus.trans busAfter, nodes.trans nodesAfter, settings.trans settingsAfter⟩
  | cons transaction rest =>
    obtain ⟨⟨busAfter, nodesAfter, settingsAfter⟩, later⟩ := consecutive
    exact ⟨⟨bus.trans busAfter, nodes.trans nodesAfter, settings.trans settingsAfter⟩, later⟩

namespace Controller

theorem consecutive_attempts (retries : Nat) (controller : Controller) (packet : Packet) :
    Consecutive controller (attempts retries controller packet)
      (persist retries controller packet).controller := by
  induction retries generalizing controller packet with
  | zero => exact ⟨⟨rfl, rfl, rfl⟩, rfl, rfl, rfl⟩
  | succ retries ih =>
    rcases persist_cases retries controller packet with ⟨_, run, made⟩ | ⟨_, _, _, run, made⟩
    · rw [run, made]
      exact ⟨⟨rfl, rfl, rfl⟩, rfl, rfl, rfl⟩
    · have later := ih (controller.attempt packet).controller (controller.attempt packet).packet
      have counted : (controller.firstTransaction packet).sent.controller.SameButCounts
          (controller.attempt packet).controller := ⟨rfl, rfl, rfl⟩
      rw [run, made]
      exact ⟨⟨rfl, rfl, rfl⟩, later.of_same counted⟩

theorem consecutive_scanQueries (controller : Controller) (found : NodeList) (addresses : List UInt8) :
    Consecutive controller (controller.scanQueries found addresses)
      (controller.scanOver found addresses).2.2 := by
  induction addresses generalizing controller found with
  | nil => exact ⟨rfl, rfl, rfl⟩
  | cons address rest ih =>
    rcases controller.scanOver_cases found address rest with
      ⟨_, scanned, queries⟩ | ⟨_, _, scanned, queries⟩ | ⟨_, _, _, scanned, queries⟩ |
      ⟨_, _, _, scanned, queries⟩
    · rw [scanned, queries]
      exact ⟨⟨rfl, rfl, rfl⟩, rfl, rfl, rfl⟩
    · rw [scanned, queries]
      exact ⟨⟨rfl, rfl, rfl⟩, rfl, rfl, rfl⟩
    · rw [scanned, queries]
      exact ⟨⟨rfl, rfl, rfl⟩, ih _ _⟩
    · rw [scanned, queries]
      exact ⟨⟨rfl, rfl, rfl⟩, ih _ _⟩

end Controller

/-- The status bytes that came back; none without an answer. -/
def Sent.reason (sent : Sent) : List UInt8 :=
  match sent.outcome with
  | .ok () => sent.packet.status.items
  | .error _ => []

theorem Sent.reason_of_ok (sent : Sent) (success : sent.outcome = .ok ()) :
    sent.reason = sent.packet.status.items := by
  unfold reason
  rw [success]

/-- There is no reason in an exchange that failed, or in an answer without status. -/
theorem Sent.reason_eq_nil (sent : Sent)
    (without : sent.outcome ≠ .ok () ∨ sent.packet.status.items = []) : sent.reason = [] := by
  unfold reason
  split
  · rename_i success
    exact without.resolve_left (not_not_intro success)
  · rfl

/-- Notes the request that an operation accepted, if it did. -/
def NodeTable.note (table : NodeTable) : Option InterruptRequest → NodeTable
  | some request => table.heardInterrupt request.address request.variant
  | none => table

namespace Controller

/-- The controller when an operation has done all it does besides exchanges and counting. -/
def prepared (controller : Controller) (operation : Operation) : Controller :=
  let nodes := controller.nodes.note (controller.accepted operation)
  match operation with
  | .serviceInterrupt =>
    let bus := (collectBurst controller.bus controller.settings.timing.interruptGap).2
    { controller with nodes, bus }
  | .raw request => (controller.raw request).2
  | .configure settings => controller.configure settings
  | _ => controller

/-- Servicing the bus comes to nothing, or asks whoever wants attention for the reason. -/
theorem serviceInterrupt_cases (controller : Controller) :
    let prepared := controller.prepared .serviceInterrupt
    (controller.accepted .serviceInterrupt = none ∧ controller.transactions .serviceInterrupt = [] ∧
      controller.serviceInterrupt =
        (none, { prepared with statistics := controller.statistics.spurious })) ∨
    ∃ request, controller.accepted .serviceInterrupt = some request ∧
      controller.transactions .serviceInterrupt =
        prepared.sendAttempts (interruptQuery request.address) ∧
      controller.serviceInterrupt =
        (some (.ofStatus request.address (prepared.send (interruptQuery request.address)).reason),
          (prepared.send (interruptQuery request.address)).controller) := by
  simp only [prepared, accepted, transactions, serviceInterrupt]
  rcases collectBurst controller.bus controller.settings.timing.interruptGap with ⟨_ | request, bus⟩
  · exact .inl ⟨rfl, rfl, rfl⟩
  · refine .inr ⟨request, rfl, rfl, ?_⟩
    simp only [NodeTable.note, Sent.reason]
    generalize send _ (interruptQuery request.address) = sent
    cases sent.outcome <;> rfl

/-- An operation makes its exchanges one after another, from what it prepared. -/
theorem consecutive_transactions (controller : Controller) (operation : Operation) :
    Consecutive (controller.prepared operation) (controller.transactions operation)
      (controller.perform operation) := by
  cases operation with
  | exchange packet budget => exact ⟨⟨rfl, rfl, rfl⟩, rfl, rfl, rfl⟩
  | send packet => exact consecutive_attempts _ controller packet
  | scan => exact controller.consecutive_scanQueries .empty _
  | enumerate => exact ⟨⟨rfl, rfl, rfl⟩, rfl, rfl, rfl⟩
  | raw request => exact ⟨rfl, rfl, rfl⟩
  | configure settings => exact ⟨rfl, rfl, rfl⟩
  | takeStatistics => exact ⟨rfl, rfl, rfl⟩
  | serviceInterrupt =>
    rw [perform]
    rcases controller.serviceInterrupt_cases with ⟨-, made, result⟩ | ⟨request, -, made, result⟩
    · rw [made, result]
      exact ⟨rfl, rfl, rfl⟩
    · rw [made, result]
      exact consecutive_attempts _ _ _

end Controller

/-! ### What is left in the queue -/

/-- Each exchange finds the queue that the one before it left, from one given queue to another. -/
def Chained (queue : List Arrival) : List Transaction → List Arrival → Prop
  | [], after => queue = after
  | transaction :: rest, after =>
    transaction.controller.bus.queue = queue ∧ Chained transaction.sent.controller.bus.queue rest after

theorem Chained.append {before between after : List Arrival} {first second : List Transaction}
    (one : Chained before first between) (other : Chained between second after) :
    Chained before (first ++ second) after := by
  induction first generalizing before with
  | nil =>
    obtain rfl : before = between := one
    exact other
  | cons transaction rest ih => exact ⟨one.1, ih one.2⟩

theorem Consecutive.chained {before after : Controller} {transactions : List Transaction}
    (consecutive : Consecutive before transactions after) :
    Chained before.bus.queue transactions after.bus.queue := by
  induction transactions generalizing before with
  | nil => exact congrArg Bus.queue consecutive.1
  | cons transaction rest ih => exact ⟨congrArg Bus.queue consecutive.1.1.symm, ih consecutive.2⟩

namespace Controller

theorem chained_transactions (controller : Controller) (operation : Operation)
    (leaves : (Step.operate operation).leavesQueue = true) :
    Chained controller.bus.queue (controller.transactions operation)
      (controller.perform operation).bus.queue := by
  have chained := (controller.consecutive_transactions operation).chained
  cases operation with
  | raw | serviceInterrupt => cases leaves
  | exchange | send | scan | enumerate | configure | takeStatistics => exact chained

/-- **Nothing flushes the queue.** Over a whole run, each exchange finds what the one before it left. -/
theorem chained_history (controller : Controller) (steps : List Step)
    (leaves : ∀ step ∈ steps, step.leavesQueue = true) :
    ∃ after, Chained controller.bus.queue (controller.history steps) after := by
  induction steps generalizing controller with
  | nil => exact ⟨controller.bus.queue, rfl⟩
  | cons step rest ih =>
    obtain ⟨first, later⟩ := List.forall_mem_cons.mp leaves
    obtain ⟨after, chained⟩ := ih (controller.step step) later
    cases step with
    | operate operation => exact ⟨after, (controller.chained_transactions operation first).append chained⟩
    | wait milliseconds => exact ⟨after, chained⟩
    | expect replies => exact ⟨after, chained⟩
    | arrive reply => cases first

end Controller

end NodeBus
