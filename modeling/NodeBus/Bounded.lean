/-!
# Lists and texts with a limit

Parameters, status bytes, raw data and scan results never outgrow a fixed number of items, and the
limit is part of their type.
-/
namespace NodeBus

/-- A list of at most `capacity` items. -/
structure Bounded (α : Type) (capacity : Nat) where
  items : List α
  fits : items.length ≤ capacity
  deriving DecidableEq, Repr

namespace Bounded

variable {α : Type} {capacity : Nat}

def empty : Bounded α capacity := ⟨[], Nat.zero_le _⟩

instance : Inhabited (Bounded α capacity) := ⟨empty⟩

def cleared (_ : Bounded α capacity) : Bounded α capacity := empty

def ofList? (items : List α) : Option (Bounded α capacity) :=
  if fits : items.length ≤ capacity then some ⟨items, fits⟩ else none

def push? (list : Bounded α capacity) (item : α) : Option (Bounded α capacity) :=
  if room : list.items.length < capacity then
    some ⟨list.items ++ [item], by simpa using Nat.succ_le_of_lt room⟩
  else none

end Bounded

/-- A text of at most `capacity` bytes of UTF-8. -/
structure BoundedText (capacity : Nat) where
  text : String
  fits : text.utf8ByteSize ≤ capacity
  deriving DecidableEq, Repr

namespace BoundedText

variable {capacity : Nat}

def ofString? (text : String) : Option (BoundedText capacity) :=
  if fits : text.utf8ByteSize ≤ capacity then some ⟨text, fits⟩ else none

def empty : BoundedText capacity := ⟨"", by simp⟩

def push? (held : BoundedText capacity) (character : Char) : Option (BoundedText capacity) :=
  ofString? (held.text.push character)

/-- The longest initial part of some characters that fits behind what is held. -/
def extend (held : BoundedText capacity) : List Char → BoundedText capacity
  | [] => held
  | character :: rest =>
    match held.push? character with
    | some longer => longer.extend rest
    | none => held

/-- The longest initial part of `text` that fits, never cutting a character. -/
def cut (text : String) : BoundedText capacity := (empty : BoundedText capacity).extend text.toList

end BoundedText

end NodeBus
