import Mathlib
import NodeBus.Proofs.NodeCapabilities
import NodeBus.Proofs.StatisticsConservation

/-!
# What a scan asks, and what it lists

A scan queries the addresses from zero on, one exchange each. `Sweeps` is that loop as a relation with one
case for its end, one for a query that the port refuses and one for every other query; `sweeps_scanOver`
shows that the loop follows it whenever the list has room for all addresses, and lists what the queries
found. The laws of a sweep are inductions over it, and `scan_lists_answering_nodes` draws them together.
-/
namespace NodeBus

/-- The node that a query found, if it was answered. -/
def Transaction.finding? (query : Transaction) : Option NodeInfo :=
  match query.sent.outcome with
  | .ok () => some (.ofStatus query.packet.address query.sent.packet.status.items)
  | .error _ => none

theorem Transaction.finding?_eq_some_iff (query : Transaction) (node : NodeInfo) :
    query.finding? = some node ↔ query.sent.outcome = .ok () ∧
      node = .ofStatus query.packet.address query.sent.packet.status.items := by
  unfold finding?
  cases query.sent.outcome with
  | ok => simp [eq_comm]
  | error => simp

theorem Transaction.finding?_of_failed (query : Transaction) (error : BusError)
    (failed : query.sent.outcome = .error error) : query.finding? = none := by
  unfold finding?
  rw [failed]

/-- What is listed stands in the order of the queries, one node for a query at most. -/
theorem addresses_findings (queries : List Transaction) :
    ((queries.filterMap Transaction.finding?).map NodeInfo.address).Sublist
      (queries.map fun query => query.packet.address) := by
  induction queries with
  | nil => exact .slnil
  | cons query rest ih =>
    cases found : query.finding? with
    | none =>
      rw [List.filterMap_cons_none found]
      exact ih.cons _
    | some node =>
      have address : node.address = query.packet.address := by
        rw [((query.finding?_eq_some_iff node).mp found).2, NodeInfo.ofStatus]
      rw [List.filterMap_cons_some found, List.map_cons, List.map_cons, address]
      exact ih.cons_cons _

/-- While no address is asked twice, it is listed exactly when its query was answered. -/
theorem mem_addresses_findings {queries : List Transaction}
    (apart : (queries.map fun query => query.packet.address).Nodup) {query : Transaction}
    (made : query ∈ queries) :
    query.packet.address ∈ (queries.filterMap Transaction.finding?).map NodeInfo.address ↔
      query.sent.outcome = .ok () := by
  constructor
  · intro listed
    obtain ⟨node, found, same⟩ := List.mem_map.mp listed
    obtain ⟨other, otherMade, told⟩ := List.mem_filterMap.mp found
    obtain ⟨success, rfl⟩ := (other.finding?_eq_some_iff node).mp told
    have only : other = query := List.inj_on_of_nodup_map apart otherMade made same
    rwa [← only]
  · intro success
    have told := (query.finding?_eq_some_iff _).mpr ⟨success, rfl⟩
    exact List.mem_map.mpr ⟨_, List.mem_filterMap.mpr ⟨query, made, told⟩, rfl⟩

/-- Two status bytes are read low byte first, and missing ones as zero. -/
theorem toNat_wordAt (status : List UInt8) (index : Nat) :
    (wordAt status index).toNat =
      (status[index]?.getD 0).toNat + 256 * (status[index + 1]?.getD 0).toNat :=
  Checksum.word_toNat _ _

namespace Controller

/-- A sweep over some addresses: the queries it makes, in order, and how it ends. -/
inductive Sweeps : Controller → List UInt8 → List Transaction → Outcome → Prop
  | finished {controller : Controller} : Sweeps controller [] [] (.ok ())
  | refused {controller : Controller} {address : UInt8} {rest : List UInt8}
      (untaken : ¬ controller.Takes) :
      Sweeps controller (address :: rest) [controller.scanQuery address] (.error .txTimeout)
  | onward {controller : Controller} {address : UInt8} {rest : List UInt8} {queries : List Transaction}
      {outcome : Outcome} (taken : controller.Takes)
      (later : Sweeps (controller.scanQuery address).sent.controller rest queries outcome) :
      Sweeps controller (address :: rest) (controller.scanQuery address :: queries) outcome

/-- With room for all addresses a scan sweeps over them, and lists all it finds. -/
theorem sweeps_scanOver (controller : Controller) (found : NodeList) (addresses : List UInt8)
    (room : found.items.length + addresses.length ≤ maxScan) :
    Sweeps controller addresses (controller.scanQueries found addresses)
        (controller.scanOver found addresses).1 ∧
      (controller.scanOver found addresses).2.1.items =
        found.items ++ (controller.scanQueries found addresses).filterMap Transaction.finding? := by
  induction addresses generalizing controller found with
  | nil => exact ⟨.finished, (List.append_nil _).symm⟩
  | cons address rest ih =>
    rw [List.length_cons] at room
    have taken_iff := exchange_txTimeout_iff controller (identifyQuery address)
      controller.settings.timing.scanResponse
    rcases controller.scanOver_cases found address rest with
      ⟨failed, scanned, queries⟩ | ⟨-, full, -, -⟩ | ⟨longer, success, pushed, scanned, queries⟩ |
      ⟨error, failed, other, scanned, queries⟩
    · rw [scanned, queries, List.filterMap_cons_none (Transaction.finding?_of_failed _ _ failed)]
      exact ⟨.refused (taken_iff.mp failed), (List.append_nil _).symm⟩
    · rw [Bounded.push?, dif_pos (by omega)] at full
      cases full
    · have taken : controller.Takes := by
        by_contra untaken
        have failed := taken_iff.mpr untaken
        exact absurd (success.symm.trans failed) (by simp)
      have items := Bounded.items_of_push? pushed
      obtain ⟨later, all⟩ := ih (controller.scanQuery address).sent.controller longer
        (by rw [items]; simp; omega)
      have node := (Transaction.finding?_eq_some_iff _ _).mpr ⟨success, rfl⟩
      rw [scanned, queries, all, items, List.filterMap_cons_some node, List.append_assoc]
      exact ⟨.onward taken later, rfl⟩
    · have taken : controller.Takes := by
        by_contra untaken
        have refused := taken_iff.mpr untaken
        exact other (Except.error.inj (failed.symm.trans refused))
      obtain ⟨later, all⟩ := ih (controller.scanQuery address).sent.controller found (by omega)
      rw [scanned, queries, all, List.filterMap_cons_none (Transaction.finding?_of_failed _ _ failed)]
      exact ⟨.onward taken later, rfl⟩

/-! ### The laws of a sweep -/

section Laws

variable {controller : Controller} {addresses : List UInt8} {queries : List Transaction} {outcome : Outcome}

/-- The queries go to the addresses in order, each once. -/
theorem Sweeps.packets (sweep : Sweeps controller addresses queries outcome) :
    queries.map Transaction.packet = (addresses.take queries.length).map identifyQuery := by
  induction sweep with
  | finished => rfl
  | refused => rfl
  | onward taken later ih => exact congrArg (_ :: ·) ih

theorem Sweeps.length_le (sweep : Sweeps controller addresses queries outcome) :
    queries.length ≤ addresses.length := by
  induction sweep with
  | finished => exact Nat.le_refl 0
  | refused => simp
  | onward taken later ih => simpa using ih

theorem Sweeps.budget (sweep : Sweeps controller addresses queries outcome) :
    ∀ query ∈ queries, query.budget = controller.settings.timing.scanResponse := by
  induction sweep with
  | finished => simp
  | refused => simp [scanQuery]
  | onward taken later ih => exact List.forall_mem_cons.mpr ⟨rfl, ih⟩

/-- A sweep comes to its end, or stops at the first query that the port refuses. -/
theorem Sweeps.ended (sweep : Sweeps controller addresses queries outcome) :
    (outcome = .ok () ∧ queries.length = addresses.length ∧
      ∀ query ∈ queries, query.controller.Takes) ∨
    (outcome = .error .txTimeout ∧ ∃ earlier last, queries = earlier ++ [last] ∧
      (∀ query ∈ earlier, query.controller.Takes) ∧ ¬ last.controller.Takes) := by
  induction sweep with
  | finished => exact .inl ⟨rfl, rfl, by simp⟩
  | @refused controller address _ untaken =>
    exact .inr ⟨rfl, [], controller.scanQuery address, rfl, by simp, untaken⟩
  | @onward controller address _ _ _ taken later ih =>
    rcases ih with ⟨ok, length, all⟩ | ⟨stopped, earlier, last, split, all, untaken⟩
    · exact .inl ⟨ok, by simp [length], List.forall_mem_cons.mpr ⟨taken, all⟩⟩
    · refine .inr ⟨stopped, controller.scanQuery address :: earlier, last, ?_, ?_, untaken⟩
      · rw [split, List.cons_append]
      · exact List.forall_mem_cons.mpr ⟨taken, all⟩

end Laws

/-! ### The addresses of a scan -/

/-- A scan visits the addresses up to its limit, the broadcast address excluded. -/
theorem scanAddresses_eq (settings : BusSettings) :
    scanAddresses settings = (List.range (min settings.maxNodeAddress.toNat 254 + 1)).map .ofNat := by
  have limit : settings.clamped.maxNodeAddress.toNat = min settings.maxNodeAddress.toNat 254 := by
    change (if settings.maxNodeAddress ≤ 0xFE then settings.maxNodeAddress else 0xFE).toNat = _
    split
    case isTrue below => exact (Nat.min_eq_left below).symm
    case isFalse above => exact (Nat.min_eq_right (Nat.le_of_not_le above)).symm
  rw [scanAddresses, limit]

theorem length_scanAddresses (settings : BusSettings) :
    (scanAddresses settings).length = min settings.maxNodeAddress.toNat 254 + 1 := by
  rw [scanAddresses_eq, List.length_map, List.length_range]

theorem take_scanAddresses (settings : BusSettings) (count : Nat)
    (within : count ≤ (scanAddresses settings).length) :
    (scanAddresses settings).take count = (List.range count).map .ofNat := by
  rw [length_scanAddresses] at within
  rw [scanAddresses_eq, ← List.map_take, List.take_range, Nat.min_eq_left within]

/-- Small numbers keep their order as addresses. -/
theorem ascending_addresses (count : Nat) (small : count ≤ 256) :
    ((List.range count).map UInt8.ofNat).Pairwise (· < ·) := by
  rw [List.pairwise_map]
  refine List.Pairwise.imp_of_mem ?_ List.pairwise_lt_range
  intro lower higher lowerIn higherIn less
  rw [List.mem_range] at lowerIn higherIn
  rw [UInt8.lt_iff_toNat_lt, UInt8.toNat_ofNat', UInt8.toNat_ofNat']
  omega

/-! ### Scans -/

/-- A query of a scan never goes to everyone, so its frame is decided by what is known of its node. -/
theorem frame_of_query (query : Transaction) (unicast : query.packet.isBroadcast = false) :
    query.frame = match (query.controller.nodes.node query.packet.address).variant with
      | .crc8 => onWire 0x01 .crc8 query.packet
      | .crc16 => onWire 0x05 .crc16 query.packet := by
  rw [Packet.isBroadcast, beq_eq_false_iff_ne] at unicast
  exact (frame_eq_onWire query).trans (if_neg unicast)

/-- What a scan does, by the queries it makes. -/
structure ScanLaw (controller : Controller) (held : NodeList) (queries : List Transaction) : Prop where
  /-- Each query starts from what the one before it left. -/
  consecutive : Consecutive controller queries (controller.scanInto held).2.2
  /-- The addresses are asked from zero on, one after another. -/
  asked : queries.map Transaction.packet = (List.range queries.length).map fun index =>
    { address := .ofNat index, command := 0x00, params := ⟨[0, 0, 0, 0], by decide⟩ }
  budget : ∀ query ∈ queries, query.budget = controller.settings.timing.scanResponse
  /-- Each query is written in the variant its node was last heard in. -/
  frame : ∀ query ∈ queries, query.frame =
    match (controller.nodes.node query.packet.address).variant with
    | .crc8 => onWire 0x01 .crc8 query.packet
    | .crc16 => onWire 0x05 .crc16 query.packet
  limit : queries.length ≤ min controller.settings.maxNodeAddress.toNat 254 + 1
  /-- Only a query that the port refuses keeps it from the last address, and is its last. -/
  ended : ((controller.scanInto held).1 = .ok () ∧
      queries.length = min controller.settings.maxNodeAddress.toNat 254 + 1 ∧
      ∀ query ∈ queries, query.controller.Takes) ∨
    ((controller.scanInto held).1 = .error .txTimeout ∧ ∃ earlier last, queries = earlier ++ [last] ∧
      (∀ query ∈ earlier, query.controller.Takes) ∧ ¬ last.controller.Takes)
  script : (controller.scanInto held).2.2.bus.script = controller.bus.script.drop queries.length
  written : (controller.scanInto held).2.2.bus.written =
    controller.bus.written ++ queries.flatMap Transaction.record
  /-- Nothing it finds is left out for want of room, and nothing is kept from before. -/
  listed : (controller.scanInto held).2.1.items = queries.filterMap Transaction.finding?
  ascending : ((controller.scanInto held).2.1.items.map NodeInfo.address).Pairwise (· < ·)
  contains : ∀ query ∈ queries,
    query.packet.address ∈ (controller.scanInto held).2.1.items.map NodeInfo.address ↔
      query.sent.outcome = .ok ()
  told : ∀ node ∈ (controller.scanInto held).2.1.items, ∃ query ∈ queries,
    query.sent.outcome = .ok () ∧ node.address = query.packet.address ∧
    let byte (index : Nat) : Nat := (query.sent.packet.status.items[index]?.getD 0).toNat
    node.nodeType.toNat = byte 0 + 256 * byte 1 ∧ node.firmware.toNat = byte 2 + 256 * byte 3
  statistics : (controller.scanInto held).2.2.statistics = controller.statistics
  nodes : (controller.scanInto held).2.2.nodes = controller.nodes
  settings : (controller.scanInto held).2.2.settings = controller.settings

/-- A scan is a sweep over its addresses, and what the list held before is gone. -/
theorem sweeps_scan (controller : Controller) (held : NodeList) :
    Sweeps controller (scanAddresses controller.settings) (controller.transactions .scan)
        (controller.scanInto held).1 ∧
      (controller.scanInto held).2.1.items =
        (controller.transactions .scan).filterMap Transaction.finding? := by
  have length := length_scanAddresses controller.settings
  refine sweeps_scanOver controller .empty (scanAddresses controller.settings) ?_
  simp only [length, maxScan, Bounded.empty, List.length_nil]
  omega

section Queries

variable {controller : Controller} {queries : List Transaction} {outcome : Outcome}
  (sweep : Sweeps controller (scanAddresses controller.settings) queries outcome)
include sweep

theorem Sweeps.packets_eq :
    queries.map Transaction.packet = (List.range queries.length).map (identifyQuery <| .ofNat ·) := by
  rw [sweep.packets, take_scanAddresses _ _ sweep.length_le, List.map_map]
  rfl

theorem Sweeps.ascending : (queries.map fun query => query.packet.address).Pairwise (· < ·) := by
  have addresses := congrArg (List.map Packet.address) sweep.packets_eq
  rw [List.map_map, List.map_map] at addresses
  have small := sweep.length_le
  rw [length_scanAddresses] at small
  change (queries.map (Packet.address ∘ Transaction.packet)).Pairwise _
  rw [addresses]
  exact ascending_addresses queries.length (by omega)

theorem Sweeps.unicast : ∀ query ∈ queries, query.packet.isBroadcast = false := by
  intro query made
  have asked : query.packet ∈ queries.map Transaction.packet := List.mem_map_of_mem made
  rw [sweep.packets] at asked
  obtain ⟨address, taken, same⟩ := List.mem_map.mp asked
  rw [← same]
  exact scanAddresses_unicast _ address (List.mem_of_mem_take taken)

end Queries

/-- **A scan lists the nodes that answer**, and nothing else. -/
theorem scan_lists_answering_nodes (controller : Controller) (held : NodeList) :
    ScanLaw controller held (controller.transactions .scan) := by
  obtain ⟨sweep, listed⟩ := controller.sweeps_scan held
  have length := length_scanAddresses controller.settings
  have consecutive := controller.consecutive_scanQueries .empty (scanAddresses controller.settings)
  obtain ⟨nodes, known⟩ := consecutive.nodes_eq
  have apart := sweep.ascending.imp (fun less => UInt8.ne_of_lt less)
  exact {
    consecutive
    asked := sweep.packets_eq
    budget := sweep.budget
    frame := by
      intro query made
      rw [frame_of_query query (sweep.unicast query made), known query made]
    limit := by
      rw [← length]
      exact sweep.length_le
    ended := by
      rw [← length]
      exact sweep.ended
    script := consecutive.script_eq
    written := consecutive.written_eq
    listed
    ascending := by
      rw [listed]
      exact sweep.ascending.sublist (addresses_findings _)
    contains := by
      intro query made
      rw [listed]
      exact mem_addresses_findings apart made
    told := by
      intro node isListed
      rw [listed] at isListed
      obtain ⟨query, made, found⟩ := List.mem_filterMap.mp isListed
      obtain ⟨success, rfl⟩ := (query.finding?_eq_some_iff node).mp found
      exact ⟨query, made, success, rfl, toNat_wordAt _ 0, toNat_wordAt _ 2⟩
    statistics := controller.statistics_scanOver .empty _
    nodes
    settings := consecutive.settings_eq }

end Controller

end NodeBus
