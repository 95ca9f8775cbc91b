import Mathlib
import NodeBus.WatchSet

/-!
# Entries of a watch set

Removing an entry erases it from the list (`remove?_eq_some_iff`). When the entries have a key that no two of them
share, to erase or to change the entry at an index is to erase or to change the entry with its key
(`eraseIdx_eq_filter`, `modify_eq_map`), whatever index it has moved to.
-/
namespace NodeBus

namespace WatchSet

variable {α : Type}

theorem rotate_eq (items : List α) : rotate items = items.tail ++ items.head?.toList := by
  cases items <;> rfl

/-- Removing an entry erases it. -/
theorem remove?_eq_some_iff {set rest : WatchSet α} {index : Nat} {entry : WatchEntry α} :
    remove? set index = some (entry, rest) ↔
      set.items[index]? = some entry ∧ rest.items = set.items.eraseIdx index := by
  by_cases inside : index < set.items.length
  · have rotated : set.items.take index ++ rotate (set.items.drop index) =
        set.items.eraseIdx index ++ [set.items[index]] := by
      simp [rotate_eq, List.eraseIdx_eq_take_drop_succ, inside]
    obtain ⟨items, fits⟩ := rest
    simp [remove?, inside, rotated, eq_comm]
  · simp [remove?, inside]

theorem remove?_of_getElem? (set : WatchSet α) {index : Nat} {entry : WatchEntry α}
    (found : set.items[index]? = some entry) :
    ∃ rest : WatchSet α, remove? set index = some (entry, rest) ∧ rest.items = set.items.eraseIdx index := by
  have shorter : (set.items.eraseIdx index).length ≤ watchCapacity :=
    (List.eraseIdx_sublist _ _).length_le.trans set.fits
  exact ⟨⟨_, shorter⟩, remove?_eq_some_iff.mpr ⟨found, rfl⟩, rfl⟩

end WatchSet

/-! ### Entries with a key of their own -/

variable {α : Type} {holds : α → Bool}

/-- No more than one of the items holds. -/
theorem none_of_countP_le_one {item : α} {items : List α} (once : (item :: items).countP holds ≤ 1)
    (held : holds item = true) : ∀ other ∈ items, holds other = false := by
  have others : items.countP holds = 0 := by
    rw [List.countP_cons_of_pos held] at once
    omega
  simpa using List.countP_eq_zero.mp others

theorem not_of_countP_le_one {item other : α} {items : List α} (once : (item :: items).countP holds ≤ 1)
    (member : other ∈ items) (held : holds other = true) : holds item = false := by
  by_contra both
  have alone := none_of_countP_le_one once (by simpa using both) other member
  simp [held] at alone

theorem eq_of_countP_le_one {item other : α} {items : List α} (once : items.countP holds ≤ 1)
    (first : item ∈ items) (firstHeld : holds item = true) (second : other ∈ items)
    (secondHeld : holds other = true) : other = item := by
  rw [List.countP_eq_length_filter] at once
  have member : item ∈ items.filter holds := List.mem_filter.mpr ⟨first, firstHeld⟩
  obtain ⟨only, held⟩ := List.length_eq_one_iff.mp (Nat.le_antisymm once (List.length_pos_of_mem member))
  have isOnly (held' : α) (listed : held' ∈ items.filter holds) : held' = only := by simpa [held] using listed
  rw [isOnly item member, isOnly other (List.mem_filter.mpr ⟨second, secondHeld⟩)]

/-- The only item that holds is erased by its index or by what it holds. -/
theorem eraseIdx_eq_filter {item : α} {items : List α} {index : Nat} (once : items.countP holds ≤ 1)
    (found : items[index]? = some item) (held : holds item = true) :
    items.eraseIdx index = items.filter fun other => !holds other := by
  induction items generalizing index with
  | nil => simp at found
  | cons first rest ih =>
    cases index with
    | zero =>
      obtain rfl : first = item := by simpa using found
      have others : rest.filter (fun other => !holds other) = rest :=
        List.filter_eq_self.mpr (by simpa using none_of_countP_le_one once held)
      simp [held, others]
    | succ index =>
      have found : rest[index]? = some item := by simpa using found
      have passes := not_of_countP_le_one once (List.mem_of_getElem? found) held
      have fewer : rest.countP holds ≤ 1 := (List.sublist_cons_self first rest).countP_le.trans once
      simp [passes, ih fewer found]

/-- The only item that holds is changed by its index or by what it holds. -/
theorem modify_eq_map {item : α} {items : List α} {index : Nat} (once : items.countP holds ≤ 1)
    (found : items[index]? = some item) (held : holds item = true) (change : α → α) :
    items.modify index change = items.map fun other => if holds other then change other else other := by
  induction items generalizing index with
  | nil => simp at found
  | cons first rest ih =>
    cases index with
    | zero =>
      obtain rfl : first = item := by simpa using found
      have others : rest.map (fun other => if holds other then change other else other) = rest.map id :=
        List.map_congr_left fun other member => by simp [none_of_countP_le_one once held other member]
      simp [held, others]
    | succ index =>
      have found : rest[index]? = some item := by simpa using found
      have passes := not_of_countP_le_one once (List.mem_of_getElem? found) held
      have fewer : rest.countP holds ≤ 1 := (List.sublist_cons_self first rest).countP_le.trans once
      simp [passes, ih fewer found]

end NodeBus
