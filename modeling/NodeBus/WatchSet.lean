import NodeBus.Bounded

/-!
# The watch set

Everything the event loop waits for stands in one ordered set of limited size: the bus, the listeners and
every connected text monitor. Removing an entry keeps the others in their order.
-/
namespace NodeBus

inductive Kind where
  | serial | localCommand | inet4Command | inet6Command | inet4Text | inet6Text | connectedText
  deriving DecidableEq, Repr

def watchCapacity : Nat := 16

/-- A watched connection, and whether interrupts are announced to it. -/
structure WatchEntry (α : Type) where
  kind : Kind
  connection : α
  report : Bool := false
  deriving DecidableEq, Repr

abbrev WatchSet (α : Type) := Bounded (WatchEntry α) watchCapacity

namespace WatchSet

variable {α : Type}

/-- The items with the first one moved behind the others. -/
def rotate : List α → List α
  | [] => []
  | first :: rest => rest ++ [first]

@[simp] theorem length_rotate (items : List α) : (rotate items).length = items.length := by
  cases items <;> simp [rotate]

def add? (set : WatchSet α) (kind : Kind) (connection : α) : Option (WatchSet α) :=
  set.push? { kind, connection }

/-- Adds a connection behind the others, or hands it back if the set is full. -/
def push (set : WatchSet α) (kind : Kind) (connection : α) : Except α (WatchSet α) :=
  match set.add? kind connection with
  | some longer => .ok longer
  | none => .error connection

/-- Removes the entry at an index: the entries from there on rotate by one, and the one that came
last is taken off. -/
def remove? (set : WatchSet α) (index : Nat) : Option (WatchEntry α × WatchSet α) :=
  let rotated := set.items.take index ++ rotate (set.items.drop index)
  if index < set.items.length then
    rotated.getLast?.map fun entry =>
      (entry, ⟨rotated.dropLast, by
        have := set.fits
        simp only [rotated, List.length_dropLast, List.length_append, List.length_take,
          length_rotate, List.length_drop]
        omega⟩)
  else none

def modify (set : WatchSet α) (index : Nat) (change : WatchEntry α → WatchEntry α) : WatchSet α :=
  ⟨set.items.modify index change, by simpa using set.fits⟩

/-- Changes every entry. -/
def count (set : WatchSet α) (kind : Kind) : Nat := set.items.countP (·.kind == kind)

inductive Operation (α : Type) where
  | push (kind : Kind) (connection : α)
  | remove (index : Nat)
  | report (index : Nat) (flag : Bool)
  deriving DecidableEq, Repr

inductive Answer (α : Type) where
  | added
  | full (connection : α)
  | removed (entry : WatchEntry α)
  /-- The flag of an entry was set; before, the entry was this. -/
  | changed (entry : WatchEntry α)
  | absent
  deriving DecidableEq, Repr

def perform (set : WatchSet α) : Operation α → Answer α × WatchSet α
  | .push kind connection =>
    match set.push kind connection with
    | .ok longer => (.added, longer)
    | .error connection => (.full connection, set)
  | .remove index =>
    match set.remove? index with
    | some (entry, rest) => (.removed entry, rest)
    | none => (.absent, set)
  | .report index flag =>
    match set.items[index]? with
    | some entry => (.changed entry, set.modify index ({ · with report := flag }))
    | none => (.absent, set)

end WatchSet

end NodeBus
