import Mathlib
import NodeBus.Proofs.InterruptFrames
import NodeBus.Proofs.Requests

/-!
# What is known about nodes over a run

The journal of a run tells in order which requests for attention it accepted, which exchanges it made and
which raw bytes it passed on. The node table is a function of that journal, and only of the requests in it:
`journal_follows` is the invariant, and `capabilities_stick` draws the consequences for the frames written.

Reading the settings, the statistics or what is known about a node changes nothing, so these are not
operations of a run.
-/
namespace NodeBus

/-- Something a run did. -/
inductive Entry where
  | heard (request : InterruptRequest)
  | passed (bytes : List UInt8)
  | exchanged (transaction : Transaction)

/-- What it left on record at the port. -/
def Entry.written : Entry → List (List UInt8)
  | .heard _ => []
  | .passed bytes => [bytes]
  | .exchanged transaction => transaction.record

/-- The variants in which an address asked for attention, oldest first. -/
def heardFrom (address : UInt8) (journal : List Entry) : List Variant :=
  journal.filterMap fun
    | .heard request => if request.address = address then some request.variant else none
    | .passed _ | .exchanged _ => none

/-- The variant of the latest request from an address; the short checksum before the first. -/
def latestVariant (address : UInt8) (journal : List Entry) : Variant :=
  (heardFrom address journal).getLast?.getD .crc8

namespace Controller

/-- The raw bytes that an operation gets past the port. -/
def passed (controller : Controller) : Operation → List (List UInt8)
  | .raw request =>
    if request.tx.items = [] ∨ maxRaw < request.expect.toNat then []
    else if controller.bus.Takes request.txTimeout.toNat then [request.tx.items] else []
  | _ => []

/-- What an operation does, in order. -/
def entries (controller : Controller) (operation : Operation) : List Entry :=
  (controller.accepted operation).toList.map .heard ++ (controller.passed operation).map .passed ++
    (controller.transactions operation).map .exchanged

/-- What a run does, in order. -/
def journal (controller : Controller) (steps : List Step) : List Entry :=
  (controller.operations steps).flatMap fun (started, operation) => started.entries operation

end Controller

/-! ### One operation -/

namespace Controller

theorem nodes_prepared (controller : Controller) (operation : Operation) :
    (controller.prepared operation).nodes = controller.nodes.note (controller.accepted operation) := by
  cases operation with
  | raw request =>
    change (controller.raw request).2.nodes = controller.nodes
    unfold raw
    split
    · rfl
    · rcases controller.bus.write request.txTimeout.toNat request.tx.items with ⟨_ | _, bus⟩ <;> rfl
  | serviceInterrupt | exchange | send | scan | enumerate | configure | takeStatistics => rfl

/-- Reading a raw answer does not write. -/
theorem written_readRaw (bus : Bus) (budget expect : Nat) :
    (readRaw bus budget expect).2.written = bus.written := by
  unfold readRaw Bus.listen
  split
  · rfl
  · rcases listenTo budget (hearRaw expect) .empty bus.now bus.queue with ⟨_ | _, _, _⟩ <;> rfl

theorem written_raw (controller : Controller) (request : RawRequest) :
    (controller.raw request).2.bus.written =
      controller.bus.written ++ controller.passed (.raw request) := by
  have recorded := controller.bus.written_write request.txTimeout.toNat request.tx.items
  simp only [raw, passed]
  split
  · exact (List.append_nil _).symm
  · rw [← recorded]
    rcases controller.bus.write request.txTimeout.toNat request.tx.items with ⟨_ | _, bus⟩
    · rfl
    · exact written_readRaw bus _ _

theorem written_prepared (controller : Controller) (operation : Operation) :
    (controller.prepared operation).bus.written =
      controller.bus.written ++ controller.passed operation := by
  cases operation with
  | raw request => exact controller.written_raw request
  | serviceInterrupt => exact (collectBurst_port _ _).2.trans (List.append_nil _).symm
  | exchange | send | scan | enumerate | configure | takeStatistics => exact (List.append_nil _).symm

/-- **What an operation learns about nodes** is the request it accepts, and it knows it in all its
exchanges. -/
theorem nodes_perform (controller : Controller) (operation : Operation) :
    (controller.perform operation).nodes = controller.nodes.note (controller.accepted operation) ∧
      ∀ transaction ∈ controller.transactions operation,
        transaction.controller.nodes = controller.nodes.note (controller.accepted operation) := by
  have made := (controller.consecutive_transactions operation).nodes_eq
  rw [controller.nodes_prepared operation] at made
  exact made

theorem written_perform (controller : Controller) (operation : Operation) :
    (controller.perform operation).bus.written =
      controller.bus.written ++ (controller.entries operation).flatMap Entry.written := by
  have heard (requests : List InterruptRequest) :
      (requests.map Entry.heard).flatMap Entry.written = [] := by
    simp [List.flatMap_map, Entry.written]
  have passed (writes : List (List UInt8)) : (writes.map Entry.passed).flatMap Entry.written = writes := by
    simp [List.flatMap_map, Entry.written]
  have exchanged : ((controller.transactions operation).map Entry.exchanged).flatMap Entry.written =
      (controller.transactions operation).flatMap Transaction.record := List.flatMap_map ..
  rw [(controller.consecutive_transactions operation).written_eq, written_prepared, entries,
    List.flatMap_append, List.flatMap_append, heard, passed, exchanged, List.nil_append, List.append_assoc]

/-- A request is accepted exactly when the idle bus is serviced and what can be heard begins with a frame
of it. -/
theorem accepted_eq_some_iff (controller : Controller) (operation : Operation)
    (request : InterruptRequest) :
    controller.accepted operation = some request ↔
      operation = .serviceInterrupt ∧ ∃ frame, request.FramedAs frame ∧
        frame <+: controller.bus.audible controller.settings.timing.interruptGap := by
  cases operation with
  | serviceInterrupt =>
    have collected := collectBurst_eq_some_iff controller.bus controller.settings.timing.interruptGap request
    simpa [accepted] using collected
  | exchange | send | scan | enumerate | raw | configure | takeStatistics => simp [accepted]

end Controller

/-! ### Runs -/

/-- What the requests of a journal tell about a node. -/
def Node.told (address : UInt8) (journal : List Entry) : Node where
  variant := latestVariant address journal
  interrupter := !(heardFrom address journal).isEmpty

theorem Node.interrupter_told (address : UInt8) (journal : List Entry) :
    (told address journal).interrupter = true ↔
      ∃ request, .heard request ∈ journal ∧ request.address = address := by
  simp only [told, heardFrom, Bool.not_eq_true', List.isEmpty_eq_false_iff_exists_mem, List.mem_filterMap]
  constructor
  · rintro ⟨variant, entry, member, kept⟩
    cases entry with
    | passed | exchanged => cases kept
    | heard request =>
      by_cases same : request.address = address
      · exact ⟨request, member, same⟩
      · simp [same] at kept
  · rintro ⟨request, member, same⟩
    exact ⟨request.variant, .heard request, member, if_pos same⟩

/-- The table holds what the requests of a journal tell. -/
def NodeTable.Follows (table : NodeTable) (journal : List Entry) : Prop :=
  ∀ address, table.node address = .told address journal

/-- Every exchange of `journal` is made with what was heard before it, `past` included. -/
def Informed (past journal : List Entry) : Prop :=
  ∀ before transaction later, journal = before ++ .exchanged transaction :: later →
    transaction.controller.nodes.Follows (past ++ before)

namespace NodeTable.Follows

variable {table : NodeTable} {journal : List Entry}

theorem note (follows : table.Follows journal) (request : Option InterruptRequest) :
    (table.note request).Follows (journal ++ request.toList.map .heard) := by
  cases request with
  | none => simpa [NodeTable.note] using follows
  | some request =>
    intro address
    by_cases same : request.address = address
    · subst same
      simp [NodeTable.note, heardInterrupt, Node.heardInterrupt, Node.told, latestVariant, heardFrom]
    · have other : address ≠ request.address := fun equal => same equal.symm
      have known := follows address
      simpa [NodeTable.note, heardInterrupt, Node.told, latestVariant, heardFrom, same, other] using known

/-- Only requests tell something about nodes. -/
theorem silent (follows : table.Follows journal) {more : List Entry}
    (nothing : ∀ request, .heard request ∉ more) : table.Follows (journal ++ more) := by
  have none : ∀ address, heardFrom address more = [] := by
    intro address
    refine List.filterMap_eq_nil_iff.mpr fun entry member => ?_
    cases entry with
    | heard request => exact absurd member (nothing request)
    | passed | exchanged => rfl
  intro address
  have unchanged : heardFrom address (journal ++ more) = heardFrom address journal := by
    rw [heardFrom, List.filterMap_append]
    change heardFrom address journal ++ heardFrom address more = _
    rw [none, List.append_nil]
  rw [follows address, Node.told, latestVariant, ← unchanged]
  rfl

end NodeTable.Follows

theorem Informed.append {past one other : List Entry} (first : Informed past one)
    (second : Informed (past ++ one) other) : Informed past (one ++ other) := by
  intro before transaction later split
  rcases List.append_eq_append_iff.mp split with ⟨front, rfl, rest⟩ | ⟨rest, inside, behind⟩
  · rw [← List.append_assoc]
    exact second front transaction later rest
  · cases rest with
    | nil =>
      rw [List.append_nil] at inside
      subst inside
      have next := second [] transaction later behind.symm
      rwa [List.append_nil] at next
    | cons entry rest =>
      obtain ⟨rfl, -⟩ := List.cons_eq_cons.mp behind
      exact first before transaction rest inside

theorem Informed.of_no_exchange {past journal : List Entry}
    (none : ∀ transaction, .exchanged transaction ∉ journal) : Informed past journal := by
  rintro before transaction later rfl
  exact absurd (by simp) (none transaction)

/-- Exchanges made in a row know the same. -/
theorem Informed.of_exchanges {past : List Entry} {transactions : List Transaction}
    (follow : ∀ transaction ∈ transactions, transaction.controller.nodes.Follows past) :
    Informed past (transactions.map .exchanged) := by
  intro before transaction later split
  have made : Entry.exchanged transaction ∈ transactions.map Entry.exchanged := by simp [split]
  have known := follow transaction (by simpa using made)
  refine known.silent fun request heard => ?_
  have exchanged : Entry.heard request ∈ transactions.map Entry.exchanged := by simp [split, heard]
  simp at exchanged

namespace Controller

/-- What one operation preserves. -/
theorem entries_follow (controller : Controller) (operation : Operation) (past : List Entry)
    (follows : controller.nodes.Follows past) :
    (controller.perform operation).nodes.Follows (past ++ controller.entries operation) ∧
      Informed past (controller.entries operation) := by
  obtain ⟨after, during⟩ := controller.nodes_perform operation
  have noted := follows.note (controller.accepted operation)
  have onlyPassed : ∀ request, .heard request ∉ (controller.passed operation).map Entry.passed := by simp
  have ready := noted.silent onlyPassed
  rw [List.append_assoc] at ready
  constructor
  · rw [after, entries, ← List.append_assoc]
    exact ready.silent (by simp)
  · refine Informed.append (.of_no_exchange (by simp)) (.of_exchanges fun transaction made => ?_)
    rw [during transaction made]
    exact ready

/-- What a run preserves. -/
theorem journal_follows (controller : Controller) (steps : List Step) (past : List Entry)
    (follows : controller.nodes.Follows past) :
    (controller.after steps).nodes.Follows (past ++ controller.journal steps) ∧
      Informed past (controller.journal steps) := by
  induction steps generalizing controller past with
  | nil =>
    refine ⟨?_, .of_no_exchange (by simp [journal, operations])⟩
    rw [journal, operations, List.flatMap_nil, List.append_nil]
    exact follows
  | cons step rest ih =>
    cases step with
    | wait | expect | arrive => exact ih _ past follows
    | operate operation =>
      obtain ⟨next, first⟩ := controller.entries_follow operation past follows
      obtain ⟨last, later⟩ := ih (controller.perform operation) _ next
      refine ⟨?_, first.append later⟩
      rw [List.append_assoc] at last
      exact last

/-- On record is what the journal says was written. -/
theorem written_after (controller : Controller) (steps : List Step) :
    (controller.after steps).bus.written =
      controller.bus.written ++ (controller.journal steps).flatMap Entry.written := by
  induction steps generalizing controller with
  | nil => exact (List.append_nil _).symm
  | cons step rest ih =>
    have later := ih (controller.step step)
    cases step with
    | wait | expect | arrive => exact later
    | operate operation =>
      change _ = _ ++ (controller.entries operation ++ _).flatMap Entry.written
      rw [List.flatMap_append, ← List.append_assoc, ← controller.written_perform operation]
      exact later

/-- A command on the wire, with a header byte and a checksum. -/
def onWire (header : UInt8) (check : Variant) (packet : Packet) : List UInt8 :=
  let front := header :: packet.address :: packet.command :: packet.params.items
  Escape.stx :: Escape.escaped (front ++ check.checkBytes front) ++ [Escape.etx]

/-- What the law of capabilities says of a run. -/
structure CapabilityLaw (started : Controller) (steps : List Step) : Prop where
  /-- A request is accepted exactly when a frame of it is heard on the idle bus. -/
  accepted : ∀ controller operation, (controller, operation) ∈ started.operations steps →
    ∀ request, controller.accepted operation = some request ↔
      operation = .serviceInterrupt ∧ ∃ frame, request.FramedAs frame ∧
        frame <+: controller.bus.audible controller.settings.timing.interruptGap
  /-- Nothing but an accepted request changes what is known of a node. -/
  learned : ∀ controller operation, (controller, operation) ∈ started.operations steps →
    ∀ address, (controller.perform operation).nodes.node address =
      match controller.accepted operation with
      | some request =>
        if address = request.address then { variant := request.variant, interrupter := true }
        else controller.nodes.node address
      | none => controller.nodes.node address
  interrupter : ∀ address, ((started.after steps).nodes.node address).interrupter = true ↔
    ∃ request, .heard request ∈ started.journal steps ∧ request.address = address
  variant : ∀ address, ((started.after steps).nodes.node address).variant =
    latestVariant address (started.journal steps)
  /-- The flag at the time of an exchange is that of the latest request before it. -/
  informed : ∀ (before later : List Entry) (transaction : Transaction),
    started.journal steps = before ++ .exchanged transaction :: later →
      ∀ address, (transaction.controller.nodes.node address).variant = latestVariant address before
  /-- It decides about the frame, unless the frame goes to everyone. -/
  frames : ∀ (before later : List Entry) (transaction : Transaction),
    started.journal steps = before ++ .exchanged transaction :: later →
      transaction.frame =
        if transaction.packet.address = broadcastAddress then onWire 0x01 .crc8 transaction.packet
        else match latestVariant transaction.packet.address before with
          | .crc8 => onWire 0x01 .crc8 transaction.packet
          | .crc16 => onWire 0x05 .crc16 transaction.packet
  written : (started.after steps).bus.written =
    started.bus.written ++ (started.journal steps).flatMap Entry.written

/-- The frame of an exchange, by the flag of its node. -/
theorem frame_eq_onWire (transaction : Transaction) :
    transaction.frame =
      if transaction.packet.address = broadcastAddress then onWire 0x01 .crc8 transaction.packet
      else match (transaction.controller.nodes.node transaction.packet.address).variant with
        | .crc8 => onWire 0x01 .crc8 transaction.packet
        | .crc16 => onWire 0x05 .crc16 transaction.packet := by
  rw [Transaction.frame, Transaction.variant, variantOf, NodeTable.variantFor]
  by_cases everyone : transaction.packet.address = broadcastAddress
  · rw [if_pos everyone, if_pos everyone]
    rfl
  · rw [if_neg everyone, if_neg everyone]
    cases (transaction.controller.nodes.node transaction.packet.address).variant <;> rfl

theorem nodes_of_operations (controller : Controller) (operation : Operation) (address : UInt8) :
    (controller.perform operation).nodes.node address =
      match controller.accepted operation with
      | some request =>
        if address = request.address then { variant := request.variant, interrupter := true }
        else controller.nodes.node address
      | none => controller.nodes.node address := by
  rw [(controller.nodes_perform operation).1]
  cases controller.accepted operation <;> rfl

/-- **What is known about nodes sticks.** -/
theorem capabilities_stick (settings : BusSettings) (bus : Bus) (steps : List Step) :
    CapabilityLaw { settings, bus } steps := by
  let started : Controller := { settings, bus }
  have nothing : started.nodes.Follows [] := fun _ => rfl
  obtain ⟨last, informed⟩ := started.journal_follows steps [] nothing
  have flag : ∀ (before later : List Entry) (transaction : Transaction),
      started.journal steps = before ++ .exchanged transaction :: later →
        ∀ address, (transaction.controller.nodes.node address).variant = latestVariant address before :=
    fun before later transaction split address =>
      congrArg Node.variant (informed before transaction later split address)
  exact {
    accepted := fun controller operation _ => controller.accepted_eq_some_iff operation
    learned := fun controller operation _ => controller.nodes_of_operations operation
    interrupter := by
      intro address
      have known : (started.after steps).nodes.node address = _ := last address
      rw [known, Node.interrupter_told]
      rfl
    variant := fun address => congrArg Node.variant (last address)
    informed := flag
    frames := by
      intro before later transaction split
      rw [← flag before later transaction split]
      exact frame_eq_onWire transaction
    written := started.written_after steps }

end Controller

end NodeBus
