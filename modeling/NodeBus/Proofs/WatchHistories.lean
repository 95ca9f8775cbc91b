import NodeBus.Proofs.WatchSets

/-!
# Watch sets over their history

Over every history, a watch set gives the answers and keeps the entries of a list that is appended to while it is
short enough, erased from by index and changed in place (`inTurn_onList`).

Indices shift when an entry goes. To tell connections apart whatever they are, they are numbered by the operation
that pushes them (`numbered`), and an entry is followed through the rest of its history by its number alone
(`follow`). What is left so of the entries that came in, in the order they came in, is what the set holds
(`items_after`).
-/
namespace NodeBus

/-! ### Runs -/

section Runs

variable {σ τ ι κ ω χ : Type}

/-- What is answered to some inputs, each beside its input, and what state they leave. -/
def inTurn (step : σ → ι → ω × σ) (state : σ) : List ι → List (ι × ω) × σ
  | [] => ([], state)
  | input :: rest =>
    let (answer, next) := step state input
    let (answered, last) := inTurn step next rest
    ((input, answer) :: answered, last)

@[simp] theorem map_fst_inTurn (step : σ → ι → ω × σ) (state : σ) (inputs : List ι) :
    (inTurn step state inputs).1.map Prod.fst = inputs := by
  induction inputs generalizing state with
  | nil => rfl
  | cons first rest ih => simp [inTurn, ih]

theorem inTurn_append (step : σ → ι → ω × σ) (state : σ) (earlier later : List ι) :
    inTurn step state (earlier ++ later) =
      ((inTurn step state earlier).1 ++ (inTurn step (inTurn step state earlier).2 later).1,
        (inTurn step (inTurn step state earlier).2 later).2) := by
  induction earlier generalizing state with
  | nil => rfl
  | cons first rest ih => simp [inTurn, ih]

/-- Where every step, as it is viewed, is one of another kind, so is every run. -/
theorem inTurn_view {step : σ → ι → ω × σ} {other : τ → κ → χ × τ} (view : σ → τ) (input : ι → κ) (output : ω → χ)
    (alike : ∀ state given, other (view state) (input given) = (step state given).map output view)
    (state : σ) (inputs : List ι) :
    inTurn other (view state) (inputs.map input) =
      (inTurn step state inputs).map (List.map (Prod.map input output)) view := by
  induction inputs generalizing state with
  | nil => rfl
  | cons first rest ih => simp [inTurn, alike, ih]

end Runs

/-- The entry with another connection. -/
def WatchEntry.map {α β : Type} (f : α → β) (entry : WatchEntry α) : WatchEntry β where
  kind := entry.kind
  connection := f entry.connection
  report := entry.report

namespace WatchSet

open scoped List

variable {α β : Type}

/-! ### A list for the entries -/

/-- The answer to an operation, and the entries after it, when they stand in a list. -/
def onList (entries : List (WatchEntry α)) : Operation α → Answer α × List (WatchEntry α)
  | .push kind connection =>
    if entries.length < watchCapacity then (.added, entries ++ [{ kind, connection }])
    else (.full connection, entries)
  | .remove index =>
    match entries[index]? with
    | some entry => (.removed entry, entries.eraseIdx index)
    | none => (.absent, entries)
  | .report index flag =>
    match entries[index]? with
    | some entry => (.changed entry, entries.modify index ({ · with report := flag }))
    | none => (.absent, entries)

/-- What a watch set does with one operation. -/
structure Performs (set : WatchSet α) : Prop where
  added : ∀ kind connection, set.items.length < watchCapacity → ∃ longer : WatchSet α,
    perform set (.push kind connection) = (.added, longer) ∧
      longer.items = set.items ++ [{ kind := kind, connection := connection }]
  full : ∀ kind connection, set.items.length = watchCapacity →
    perform set (.push kind connection) = (.full connection, set)
  removed : ∀ index entry, set.items[index]? = some entry → ∃ rest : WatchSet α,
    perform set (.remove index) = (.removed entry, rest) ∧ rest.items = set.items.eraseIdx index
  changed : ∀ index flag entry, set.items[index]? = some entry → ∃ changed : WatchSet α,
    perform set (.report index flag) = (.changed entry, changed) ∧
      changed.items = set.items.modify index ({ · with report := flag })
  absent : ∀ index, set.items.length ≤ index →
    perform set (.remove index) = (.absent, set) ∧ ∀ flag, perform set (.report index flag) = (.absent, set)

theorem performs (set : WatchSet α) : Performs set where
  added := by
    intro kind connection room
    refine ⟨⟨set.items ++ [{ kind := kind, connection := connection }], by simpa using room⟩, ?_, rfl⟩
    simp [perform, push, add?, Bounded.push?, room]
  full := by
    intro kind connection full
    simp [perform, push, add?, Bounded.push?, full]
  removed := by
    intro index entry found
    obtain ⟨rest, removed, left⟩ := remove?_of_getElem? set found
    exact ⟨rest, by simp [perform, removed], left⟩
  changed := by
    intro index flag entry found
    exact ⟨set.modify index ({ · with report := flag }), by simp [perform, found], rfl⟩
  absent := by
    intro index beyond
    have missing : set.items[index]? = none := List.getElem?_eq_none beyond
    have unremoved : remove? set index = none := by simp [remove?, Nat.not_lt.mpr beyond]
    exact ⟨by simp [perform, unremoved], fun flag => by simp [perform, missing]⟩

/-- An operation does to a watch set what it does to the list of its entries. -/
theorem onList_items (set : WatchSet α) (operation : Operation α) :
    onList set.items operation = (perform set operation).map id (·.items) := by
  have performs := performs set
  cases operation with
  | push kind connection =>
    rcases Nat.lt_or_eq_of_le set.fits with room | full
    · obtain ⟨longer, performed, items⟩ := performs.added kind connection room
      simp [onList, room, performed, items]
    · simp [onList, full, performs.full kind connection full]
  | remove index =>
    cases found : set.items[index]? with
    | some entry =>
      obtain ⟨rest, performed, items⟩ := performs.removed index entry found
      simp [onList, found, performed, items]
    | none =>
      have performed := (performs.absent index (List.getElem?_eq_none_iff.mp found)).1
      simp [onList, found, performed]
  | report index flag =>
    cases found : set.items[index]? with
    | some entry =>
      obtain ⟨changed, performed, items⟩ := performs.changed index flag entry found
      simp [onList, found, performed, items]
    | none =>
      have performed := (performs.absent index (List.getElem?_eq_none_iff.mp found)).2 flag
      simp [onList, found, performed]

/-! ### Histories -/

/-- Operations, each with the answer to it. -/
abbrev Record (α : Type) := List (Operation α × Answer α)

/-- What is done in a history that begins with the empty set. -/
def record (operations : List (Operation α)) : Record α := (inTurn perform Bounded.empty operations).1

/-- The set at the end of a history that begins with the empty set. -/
def after (operations : List (Operation α)) : WatchSet α := (inTurn perform Bounded.empty operations).2

theorem record_append (earlier later : List (Operation α)) :
    record (earlier ++ later) = record earlier ++ (inTurn perform (after earlier) later).1 := by
  simp [record, after, inTurn_append]

theorem record_snoc (earlier : List (Operation α)) (operation : Operation α) :
    record (earlier ++ [operation]) =
      record earlier ++ [(operation, (onList (after earlier).items operation).1)] := by
  simp [record_append, inTurn, onList_items]

theorem items_after_snoc (earlier : List (Operation α)) (operation : Operation α) :
    (after (earlier ++ [operation])).items = (onList (after earlier).items operation).2 := by
  simp [after, inTurn_append, inTurn, onList_items]

/-- A history of a watch set is one of the list of its entries. -/
theorem inTurn_onList (operations : List (Operation α)) :
    inTurn onList [] operations = (record operations, (after operations).items) := by
  have same := inTurn_view (fun set : WatchSet α => set.items) id id
    (fun set operation => onList_items set operation) Bounded.empty operations
  simpa [record, after, Bounded.empty, Prod.map] using same

/-! ### Where the connections are -/

/-- The connection that an operation brings. -/
def Operation.pushed? : Operation α → Option α
  | .push _ connection => some connection
  | _ => none

/-- The connection that an answer hands over. -/
def Answer.released? : Answer α → Option α
  | .full connection => some connection
  | .removed entry => some entry.connection
  | _ => none

/-- The connections that some operations bring. -/
def pushed (operations : List (Operation α)) : List α := operations.filterMap (·.pushed?)

/-- The connections that are handed over in a history. -/
def released (steps : Record α) : List α := steps.filterMap (·.2.released?)

/-- What commutes with a change of the items changes them in their place. -/
theorem map_modify {f : α → β} {change : α → α} {change' : β → β} (same : ∀ item, f (change item) = change' (f item))
    (items : List α) (index : Nat) : (items.modify index change).map f = (items.map f).modify index change' := by
  induction items generalizing index with
  | nil => simp
  | cons first rest ih => cases index <;> simp [same, ih]

theorem onList_account (entries : List (WatchEntry α)) (operation : Operation α) :
    (entries.map (·.connection) ++ operation.pushed?.toList).Perm
      ((onList entries operation).1.released?.toList ++ (onList entries operation).2.map (·.connection)) := by
  cases operation with
  | push kind connection =>
    by_cases room : entries.length < watchCapacity <;> simp [onList, room, Operation.pushed?, Answer.released?]
  | remove index =>
    cases found : entries[index]? with
    | some entry =>
      obtain ⟨inside, rfl⟩ := List.getElem?_eq_some_iff.mp found
      have taken := (List.getElem_cons_eraseIdx_perm inside).symm.map (·.connection)
      simpa [onList, found, Operation.pushed?, Answer.released?] using taken
    | none => simp [onList, found, Operation.pushed?, Answer.released?]
  | report index flag =>
    cases found : entries[index]? with
    | some entry =>
      have same : (entries.modify index ({ · with report := flag })).map (·.connection) =
          (entries.map (·.connection)).modify index id := map_modify (fun _ => by rfl) entries index
      simp [onList, found, Operation.pushed?, Answer.released?, same]
    | none => simp [onList, found, Operation.pushed?, Answer.released?]

/-- A connection has been handed over or is held, once for each time it was pushed. -/
theorem account (operations : List (Operation α)) :
    (pushed operations).Perm (released (record operations) ++ (after operations).items.map (·.connection)) := by
  induction operations using List.reverseRecOn with
  | nil => exact .nil
  | append_singleton earlier operation ih =>
    have step := onList_account (after earlier).items operation
    rw [items_after_snoc, record_snoc]
    calc pushed (earlier ++ [operation])
        = pushed earlier ++ operation.pushed?.toList := by
          cases brought : operation.pushed? <;> simp [pushed, brought]
      _ ~ released (record earlier) ++ ((after earlier).items.map (·.connection) ++ operation.pushed?.toList) := by
          rw [← List.append_assoc]
          exact ih.append_right _
      _ ~ released (record earlier) ++ ((onList (after earlier).items operation).1.released?.toList ++
            (onList (after earlier).items operation).2.map (·.connection)) := step.append_left _
      _ = released (record earlier ++ [(operation, (onList (after earlier).items operation).1)]) ++
            (onList (after earlier).items operation).2.map (·.connection) := by
          cases given : (onList (after earlier).items operation).1.released? <;> simp [released, given]

/-! ### Numbered connections -/

def Operation.map (f : α → β) : Operation α → Operation β
  | .push kind connection => .push kind (f connection)
  | .remove index => .remove index
  | .report index flag => .report index flag

def Answer.map (f : α → β) : Answer α → Answer β
  | .added => .added
  | .full connection => .full (f connection)
  | .removed entry => .removed (entry.map f)
  | .changed entry => .changed (entry.map f)
  | .absent => .absent

/-- Whatever the connections are, the same becomes of them. -/
theorem onList_map (f : α → β) (entries : List (WatchEntry α)) (operation : Operation α) :
    onList (entries.map (·.map f)) (operation.map f) =
      (onList entries operation).map (·.map f) (List.map (·.map f)) := by
  cases operation with
  | push kind connection =>
    by_cases room : entries.length < watchCapacity <;>
      simp [onList, Operation.map, Answer.map, WatchEntry.map, room]
  | remove index =>
    cases found : entries[index]? <;>
      simp [onList, Operation.map, Answer.map, found, List.eraseIdx_map]
  | report index flag =>
    cases found : entries[index]? with
    | some entry =>
      have same : (entries.modify index ({ · with report := flag })).map (·.map f) =
          (entries.map (·.map f)).modify index ({ · with report := flag }) :=
        map_modify (fun _ => by rfl) entries index
      simp [onList, Operation.map, Answer.map, found, same]
    | none => simp [onList, Operation.map, Answer.map, found]

/-- The operations, with each connection numbered by the operation that pushes it. -/
def numbered (operations : List (Operation α)) : List (Operation (Nat × α)) :=
  operations.zipIdx.map fun (operation, number) => operation.map (number, ·)

theorem map_snd_numbered (operations : List (Operation α)) :
    (numbered operations).map (·.map Prod.snd) = operations := by
  have unnumbered (operation : Operation α) (number : Nat) :
      (operation.map (number, ·)).map Prod.snd = operation := by
    cases operation <;> rfl
  simp [numbered, Function.comp_def, unnumbered]

theorem pairwise_numbered (operations : List (Operation α)) :
    ((pushed (numbered operations)).map Prod.fst).Pairwise (· < ·) := by
  have apart : (operations.zipIdx.map Prod.snd).Pairwise (· < ·) := by
    rw [List.zipIdx_map_snd]
    exact List.pairwise_lt_range' 1
  have number {operation : Operation α} {number : Nat} {connection : Nat × α}
      (brought : (operation.map (number, ·)).pushed? = some connection) : connection.1 = number := by
    cases operation with
    | push kind plain =>
      cases brought
      rfl
    | remove | report => cases brought
  simp only [pushed, numbered, List.pairwise_map, List.pairwise_filterMap] at apart ⊢
  refine apart.imp fun less first firstPushed second secondPushed => ?_
  rwa [number firstPushed, number secondPushed]

/-! ### Following an entry -/

/-- What a step leaves of an entry, told by the number of its connection. -/
def follow (entry : WatchEntry (Nat × α)) :
    Operation (Nat × α) × Answer (Nat × α) → Option (WatchEntry (Nat × α))
  | (.remove _, .removed other) => if entry.connection.1 = other.connection.1 then none else some entry
  | (.report _ flag, .changed other) =>
    some (if entry.connection.1 = other.connection.1 then { entry with report := flag } else entry)
  | _ => some entry

/-- The entry that a step brings in. -/
def entered? : Operation α × Answer α → Option (WatchEntry α)
  | (.push kind connection, .added) => some { kind, connection }
  | _ => none

theorem pushed?_of_entered? {step : Operation α × Answer α} {entry : WatchEntry α}
    (arrived : entered? step = some entry) : step.1.pushed? = some entry.connection := by
  unfold entered? at arrived
  split at arrived
  · cases arrived
    rfl
  · cases arrived

/-- The entries that some steps bring in, as what is left of each by the later steps. -/
def standing : Record (Nat × α) → List (WatchEntry (Nat × α))
  | [] => []
  | step :: rest => ((entered? step).bind fun entry => rest.foldlM follow entry).toList ++ standing rest

theorem standing_append (earlier later : Record (Nat × α)) :
    standing (earlier ++ later) =
      (standing earlier).filterMap (fun entry => later.foldlM follow entry) ++ standing later := by
  have carried (left : Option (WatchEntry (Nat × α))) :
      left.toList.filterMap (fun entry => later.foldlM follow entry) =
        (left.bind fun entry => later.foldlM follow entry).toList := by
    rw [List.filterMap_eq_flatMap_toList, Option.toList_bind]
    rfl
  induction earlier with
  | nil => rfl
  | cons step rest ih =>
    simp only [List.cons_append, standing, ih, List.foldlM_append, List.filterMap_append, List.append_assoc, carried,
      Option.bind_assoc]
    rfl

theorem follow_keeps {entry left : WatchEntry (Nat × α)} {step : Operation (Nat × α) × Answer (Nat × α)}
    (followed : follow entry step = some left) : left.kind = entry.kind ∧ left.connection = entry.connection := by
  unfold follow at followed
  split at followed
  · split at followed
    · cases followed
    · cases followed
      exact ⟨rfl, rfl⟩
  · cases followed
    split <;> exact ⟨rfl, rfl⟩
  · cases followed
    exact ⟨rfl, rfl⟩

theorem foldlM_follow_keeps {entry left : WatchEntry (Nat × α)} {steps : Record (Nat × α)}
    (followed : steps.foldlM follow entry = some left) :
    left.kind = entry.kind ∧ left.connection = entry.connection := by
  induction steps generalizing entry with
  | nil =>
    cases followed
    exact ⟨rfl, rfl⟩
  | cons step rest ih =>
    obtain ⟨next, now, later⟩ := Option.bind_eq_some_iff.mp followed
    obtain ⟨kind, connection⟩ := follow_keeps now
    exact ⟨(ih later).1.trans kind, (ih later).2.trans connection⟩

/-- What is left of the entries stands in the order in which their connections were pushed. -/
theorem standing_sublist (steps : Record (Nat × α)) :
    (standing steps).map (·.connection) <+ pushed (steps.map Prod.fst) := by
  induction steps with
  | nil => exact .slnil
  | cons step rest ih =>
    have first : (((entered? step).bind fun entry => rest.foldlM follow entry).toList).map (·.connection) <+
        step.1.pushed?.toList := by
      cases arrived : entered? step with
      | none => simp
      | some entry =>
        have brought : step.1.pushed? = some entry.connection := pushed?_of_entered? arrived
        cases left : rest.foldlM follow entry with
        | none => simp [left]
        | some last => simp [brought, left, (foldlM_follow_keeps left).2]
    have split : pushed ((step :: rest).map Prod.fst) = step.1.pushed?.toList ++ pushed (rest.map Prod.fst) := by
      cases brought : step.1.pushed? <;> simp [pushed, brought]
    rw [standing, List.map_append, split]
    exact first.append ih

theorem numbers_standing_sublist (operations : List (Operation (Nat × α))) :
    (standing (record operations)).map (·.connection.1) <+ (pushed operations).map Prod.fst := by
  have listed := (standing_sublist (record operations)).map Prod.fst
  rwa [List.map_map, record, map_fst_inTurn] at listed

/-- An operation leaves of each entry what its number tells, and puts what it brings in behind them. -/
theorem onList_follow {entries : List (WatchEntry (Nat × α))} (apart : (entries.map (·.connection.1)).Nodup)
    (operation : Operation (Nat × α)) :
    (onList entries operation).2 =
      entries.filterMap (follow · (operation, (onList entries operation).1)) ++
        (entered? (operation, (onList entries operation).1)).toList := by
  -- No number stands twice, so the entry at an index is the only one that its number tells.
  have once (number : Nat) : entries.countP (·.connection.1 == number) ≤ 1 := by
    have atMost := List.nodup_iff_count_le_one.mp apart number
    rwa [List.count, List.countP_map] at atMost
  cases operation with
  | push kind connection =>
    by_cases room : entries.length < watchCapacity <;> simp [onList, room, follow, entered?]
  | remove index =>
    cases found : entries[index]? with
    | some entry =>
      have erased := eraseIdx_eq_filter (once entry.connection.1) found (by simp)
      have others : (fun other : WatchEntry (Nat × α) =>
            if other.connection.1 = entry.connection.1 then none else some other) =
          Option.guard fun other => !(other.connection.1 == entry.connection.1) := by
        funext other
        by_cases same : other.connection.1 = entry.connection.1 <;> simp [Option.guard, same]
      simp [onList, found, follow, entered?, erased, others]
    | none => simp [onList, found, follow, entered?]
  | report index flag =>
    cases found : entries[index]? with
    | some entry =>
      have changed := modify_eq_map (once entry.connection.1) found (by simp) ({ · with report := flag })
      simp [onList, found, follow, entered?, changed]
    | none => simp [onList, found, follow, entered?]

/-- A watch set holds what is left of the entries that were brought in. -/
theorem items_after {operations : List (Operation (Nat × α))} (apart : ((pushed operations).map Prod.fst).Nodup) :
    (after operations).items = standing (record operations) := by
  induction operations using List.reverseRecOn with
  | nil => rfl
  | append_singleton earlier operation ih =>
    have earlierApart : ((pushed earlier).map Prod.fst).Nodup :=
      ((earlier.sublist_append_left [operation]).filterMap _ |>.map Prod.fst).nodup apart
    have held := ih earlierApart
    have heldApart : ((after earlier).items.map (·.connection.1)).Nodup := by
      rw [held]
      exact (numbers_standing_sublist earlier).nodup earlierApart
    rw [items_after_snoc, record_snoc, standing_append, onList_follow heldApart, held]
    simp [standing]

/-! ### The law -/

/-- What a watch set has done, and holds, after a history that began with the empty set. -/
structure ListLaw (operations : List (Operation α)) : Prop where
  performs : ∀ set : WatchSet α, Performs set
  /-- It answers, and keeps, what a list does. -/
  asList : inTurn onList [] operations = (record operations, (after operations).items)
  /-- Each connection was handed over or is held, and only once. -/
  account : pushed operations ~ released (record operations) ++ (after operations).items.map (·.connection)
  /-- The history with numbered connections is the same, but for the numbers. -/
  sameHistory : record operations =
    (record (numbered operations)).map (Prod.map (·.map Prod.snd) (·.map Prod.snd))
  sameEntries : (after operations).items = (after (numbered operations)).items.map (·.map Prod.snd)
  ordered : ((after (numbered operations)).items.map (·.connection.1)).Pairwise (· < ·)
  /-- Each entry is the one its connection was pushed with, and has the flag it was last given. -/
  entries : (after (numbered operations)).items = standing (record (numbered operations))
  /-- What is done later leaves the entries that survive it in their order, and puts new ones behind them. -/
  survivors : ∀ later, ∃ steps, record (numbered (operations ++ later)) = record (numbered operations) ++ steps ∧
    (after (numbered (operations ++ later))).items =
      (after (numbered operations)).items.filterMap (fun entry => steps.foldlM follow entry) ++ standing steps

theorem items_after_numbered (operations : List (Operation α)) :
    (after (numbered operations)).items = standing (record (numbered operations)) :=
  items_after (pairwise_numbered operations).nodup

/-- The history of the numbered connections, once the numbers are taken off. -/
theorem inTurn_numbered (operations : List (Operation α)) :
    (record operations, (after operations).items) =
      ((record (numbered operations)).map (Prod.map (·.map Prod.snd) (·.map Prod.snd)),
        (after (numbered operations)).items.map (·.map Prod.snd)) := by
  have same := inTurn_view (List.map (WatchEntry.map Prod.snd)) (Operation.map Prod.snd) (Answer.map Prod.snd)
    (onList_map (Prod.snd : Nat × α → α)) [] (numbered operations)
  rwa [map_snd_numbered, List.map_nil, inTurn_onList, inTurn_onList] at same

/-- **A watch set is a list**, and no connection is lost in it, held twice, or given the flag of another. -/
theorem kept_as_list (operations : List (Operation α)) : ListLaw operations where
  performs := performs
  asList := inTurn_onList operations
  account := account operations
  sameHistory := (Prod.mk.inj (inTurn_numbered operations)).1
  sameEntries := (Prod.mk.inj (inTurn_numbered operations)).2
  ordered := by
    rw [items_after_numbered]
    exact (pairwise_numbered operations).sublist (numbers_standing_sublist _)
  entries := items_after_numbered operations
  survivors := by
    intro later
    obtain ⟨further, grown⟩ : ∃ further, numbered (operations ++ later) = numbered operations ++ further := by
      simp [numbered, List.zipIdx_append]
    have steps := record_append (numbered operations) further
    rw [← grown] at steps
    refine ⟨_, steps, ?_⟩
    rw [items_after_numbered, items_after_numbered, steps, standing_append]

/-- The flag goes with its entry, and there is nothing left to remove at the end. -/
example :
    (after [.push .serial 'b', .push .connectedText 'm', .push .connectedText 'n', .report 2 true, .remove 1,
      .remove 2]).items = [{ kind := .serial, connection := 'b' },
        { kind := .connectedText, connection := 'n', report := true }] := by decide

end WatchSet

end NodeBus
