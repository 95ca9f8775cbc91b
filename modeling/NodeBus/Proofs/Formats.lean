import Mathlib
import NodeBus.Envelope.Codec

/-!
# Formats

A format says which bytes spell a value and what makes an input faulty. Its rules know nothing of writing or
reading. Numbers are spelled in groups of seven bits, lowest first, and zero groups may stand at the end as far
as the width has room for them; the shortest spelling has none.

A function reads a format when it reads what is spelled, whatever follows, and refuses what is faulty. Then it
reads exactly the spellings and refuses exactly the faulty inputs (`ReadBy.eq_some_iff`, `ReadBy.eq_none_iff`).
-/
namespace NodeBus

/-- How the numbers of a message are spelled. -/
inductive Style where
  /-- In any way their width has room for. -/
  | free
  /-- In as few bytes as possible. -/
  | shortest
  deriving DecidableEq, Repr

/-- Why an input does not begin with a message. -/
inductive Fault where
  /-- The input ends inside the message. -/
  | truncated
  /-- A number goes on behind its last possible byte. -/
  | overlong
  /-- The last possible byte of a number would overflow. -/
  | outOfRange
  /-- No kind of message has this number. -/
  | unknownKind
  /-- A length is greater than what its list or text can hold. -/
  | aboveCapacity
  /-- The bytes of a text are not UTF-8. -/
  | notText
  deriving DecidableEq, Repr

/-- Which bytes spell a value, and what makes an input faulty. -/
structure Format (α : Type) where
  Spells : Style → α → List UInt8 → Prop
  Faulty : Fault → List UInt8 → Prop
  relax : ∀ {value bytes}, Spells .shortest value bytes → Spells .free value bytes

namespace Format

variable {α β : Type}

/-- One byte, as it is. -/
def byte : Format UInt8 where
  Spells _ value bytes := bytes = [value]
  Faulty fault input := fault = .truncated ∧ input = []
  relax spelled := spelled

/-- Every byte but the last has its high bit set; the other bits are the digits of the number to base 128. -/
structure Numeral (width : Codec.Width) (style : Style) (value : Nat) (front : List UInt8) (last : UInt8) :
    Prop where
  digits : value = Nat.ofDigits 128 ((front ++ [last]).map fun byte => byte.toNat % 128)
  continued : ∀ byte ∈ front, 128 ≤ byte.toNat
  ended : last.toNat < 128
  room : front.length ≤ width.following
  inRange : front.length = width.following → last.toNat ≤ width.lastMax
  short : style = .shortest → front ≠ [] → last ≠ 0

/-- What can be wrong with a number. -/
inductive FaultyNumber (width : Codec.Width) : Fault → List UInt8 → Prop
  | truncated (input : List UInt8) (continued : ∀ byte ∈ input, 128 ≤ byte.toNat)
      (few : input.length ≤ width.following) : FaultyNumber width .truncated input
  | overlong (front rest : List UInt8) (continued : ∀ byte ∈ front, 128 ≤ byte.toNat)
      (many : front.length = width.following + 1) : FaultyNumber width .overlong (front ++ rest)
  | outOfRange (front rest : List UInt8) (last : UInt8) (continued : ∀ byte ∈ front, 128 ≤ byte.toNat)
      (full : front.length = width.following) (ended : last.toNat < 128)
      (tooGreat : width.lastMax < last.toNat) : FaultyNumber width .outOfRange (front ++ last :: rest)

/-- A number of limited width. -/
def number (width : Codec.Width) : Format Nat where
  Spells style value bytes := ∃ front last, bytes = front ++ [last] ∧ Numeral width style value front last
  Faulty := FaultyNumber width
  relax := by
    rintro value bytes ⟨front, last, rfl, numeral⟩
    exact ⟨front, last, rfl, { numeral with short := nofun }⟩

/-- A length. -/
def size : Format Nat := number .word64

/-- The number of a kind of message. -/
def tag : Format Nat := number .word32

/-- The same spellings for values of another type. -/
def map (format : Format α) (make : α → β) : Format β where
  Spells style value bytes := ∃ inner, make inner = value ∧ format.Spells style inner bytes
  Faulty := format.Faulty
  relax := fun ⟨inner, made, spelled⟩ => ⟨inner, made, format.relax spelled⟩

/-- Nothing follows. -/
def just (value : α) : Format α where
  Spells _ other bytes := other = value ∧ bytes = []
  Faulty _ _ := False
  relax spelled := spelled

/-- Nothing is spelled. -/
def refused (reason : Fault) : Format α where
  Spells _ _ _ := False
  Faulty fault _ := fault = reason
  relax := False.elim

/-- First one value, then another whose format depends on the first. -/
def andThen (first : Format α) (next : α → Format β) : Format β where
  Spells style value bytes := ∃ head front behind, bytes = front ++ behind ∧
    first.Spells style head front ∧ (next head).Spells style value behind
  Faulty fault input := first.Faulty fault input ∨ ∃ head front rest, input = front ++ rest ∧
    first.Spells .free head front ∧ (next head).Faulty fault rest
  relax := fun ⟨head, front, behind, split, left, right⟩ =>
    ⟨head, front, behind, split, first.relax left, (next head).relax right⟩

/-- One value behind another. -/
def pair (first : Format α) (second : Format β) : Format (α × β) :=
  first.andThen fun left => second.map fun right => (left, right)

/-- A 16-bit word. -/
def word16 : Format UInt16 := (number .word16).map Nat.toUInt16

/-- A 32-bit word. -/
def word32 : Format UInt32 := (number .word32).map Nat.toUInt32

/-- The bytes spell some values one behind the other. -/
inductive SpellsAll (format : Format α) (style : Style) : List α → List UInt8 → Prop
  | nil : SpellsAll format style [] []
  | cons (value : α) (values : List α) (front behind : List UInt8)
      (spelled : format.Spells style value front) (later : SpellsAll format style values behind) :
      SpellsAll format style (value :: values) (front ++ behind)

/-- One of a number of values is faulty, and those before it are not. -/
inductive FaultyAmong (format : Format α) (fault : Fault) : Nat → List UInt8 → Prop
  | here (count : Nat) (input : List UInt8) (faulty : format.Faulty fault input) :
      FaultyAmong format fault (count + 1) input
  | later (count : Nat) (value : α) (front rest : List UInt8) (spelled : format.Spells .free value front)
      (faulty : FaultyAmong format fault count rest) : FaultyAmong format fault (count + 1) (front ++ rest)

theorem SpellsAll.relax {format : Format α} {values : List α} {bytes : List UInt8}
    (spelled : SpellsAll format .shortest values bytes) : SpellsAll format .free values bytes := by
  induction spelled with
  | nil => exact .nil
  | cons value values front behind spelled _ ih => exact .cons value values front behind (format.relax spelled) ih

/-- So many values. -/
def items (capacity count : Nat) (format : Format α) : Format (Bounded α capacity) where
  Spells style list bytes := list.items.length = count ∧ SpellsAll format style list.items bytes
  Faulty fault input := FaultyAmong format fault count input
  relax := fun ⟨length, spelled⟩ => ⟨length, spelled.relax⟩

/-- Something of limited length, behind its length. -/
def limited (capacity : Nat) (next : Nat → Format α) : Format α :=
  size.andThen fun count => if capacity < count then refused .aboveCapacity else next count

/-- A list of limited length. -/
def bounded (capacity : Nat) (format : Format α) : Format (Bounded α capacity) :=
  limited capacity fun count => items capacity count format

/-- A text of so many bytes. -/
def content (capacity count : Nat) : Format (BoundedText capacity) where
  Spells _ held bytes := bytes.length = count ∧ held.text.toByteArray = ⟨bytes.toArray⟩
  Faulty fault input := input.length < count ∧ fault = .truncated ∨
    count ≤ input.length ∧ ¬ ByteArray.IsValidUTF8 ⟨(input.take count).toArray⟩ ∧ fault = .notText
  relax spelled := spelled

/-- A text of limited length in UTF-8. -/
def text (capacity : Nat) : Format (BoundedText capacity) :=
  limited capacity (content capacity)

/-- Messages of several kinds: the number of the kind, and what follows it. -/
def kinds (fields : Nat → Option (Format α)) : Format α :=
  tag.andThen fun kind => (fields kind).getD (refused .unknownKind)

/-! ### Reading and writing -/

/-- Every input begins with a spelling or is faulty. -/
def Total (format : Format α) : Prop :=
  ∀ input, (∃ value bytes rest, input = bytes ++ rest ∧ format.Spells .free value bytes) ∨
    ∃ fault, format.Faulty fault input

/-- The function reads this format: it reads what is spelled, whatever follows it, and refuses what is
faulty. -/
structure ReadBy (format : Format α) (decode : List UInt8 → Option (α × List UInt8)) : Prop where
  reads : ∀ {value bytes}, format.Spells .free value bytes →
    ∀ rest, decode (bytes ++ rest) = some (value, rest)
  refuses : ∀ {fault input}, format.Faulty fault input → decode input = none
  total : format.Total

/-- The function writes the shortest spelling, and no spelling is shorter. -/
structure WrittenBy (format : Format α) (encode : α → List UInt8) : Prop where
  shortest : ∀ {value bytes}, format.Spells .shortest value bytes → bytes = encode value
  least : ∀ {value bytes}, format.Spells .free value bytes → (encode value).length ≤ bytes.length

variable {format : Format α} {decode : List UInt8 → Option (α × List UInt8)}

theorem ReadBy.eq_some_iff (read : format.ReadBy decode) (input rest : List UInt8) (value : α) :
    decode input = some (value, rest) ↔ ∃ bytes, input = bytes ++ rest ∧ format.Spells .free value bytes := by
  constructor
  · intro decoded
    rcases read.total input with ⟨other, bytes, left, rfl, spelled⟩ | ⟨fault, faulty⟩
    · rw [read.reads spelled] at decoded
      obtain ⟨rfl, rfl⟩ := Prod.mk.inj (Option.some.inj decoded)
      exact ⟨bytes, rfl, spelled⟩
    · rw [read.refuses faulty] at decoded
      cases decoded
  · rintro ⟨bytes, rfl, spelled⟩
    exact read.reads spelled rest

theorem ReadBy.eq_none_iff (read : format.ReadBy decode) (input : List UInt8) :
    decode input = none ↔ ∃ fault, format.Faulty fault input := by
  constructor
  · intro refused
    rcases read.total input with ⟨value, bytes, rest, rfl, spelled⟩ | faulty
    · rw [read.reads spelled] at refused
      cases refused
    · exact faulty
  · rintro ⟨fault, faulty⟩
    exact read.refuses faulty

/-- No spelling begins with another one that ends earlier. -/
theorem ReadBy.eq_none_of_strict (read : format.ReadBy decode) {value : α} {shorter more : List UInt8}
    (spelled : format.Spells .free value (shorter ++ more)) (strict : more ≠ []) : decode shorter = none := by
  cases decoded : decode shorter with
  | none => rfl
  | some pair =>
    obtain ⟨other, rest⟩ := pair
    obtain ⟨bytes, rfl, spelledEarlier⟩ := (read.eq_some_iff _ _ _).mp decoded
    have whole := read.reads spelled []
    rw [List.append_nil, List.append_assoc, read.reads spelledEarlier] at whole
    have nothing := (Prod.mk.inj (Option.some.inj whole)).2
    exact absurd (List.append_eq_nil_iff.mp nothing).2 strict

end Format

/-- The codec reads and writes the format. -/
structure Codec.Follows {α : Type} (codec : Codec α) (format : Format α) : Prop where
  read : format.ReadBy codec.decode
  written : format.WrittenBy codec.encode

/-- Every value can be written. -/
def Codec.Writes {α : Type} (codec : Codec α) (format : Format α) : Prop :=
  ∀ value, format.Spells .shortest value (codec.encode value)

/-- No value takes more bytes than that. -/
def Codec.AtMost {α : Type} (codec : Codec α) (limit : Nat) : Prop :=
  ∀ value, (codec.encode value).length ≤ limit

/-- The codec reads and writes the format, can write every value, and takes no more bytes than the limit. -/
structure Codec.Meets {α : Type} (codec : Codec α) (format : Format α) (limit : Nat) : Prop where
  follows : codec.Follows format
  writes : codec.Writes format
  atMost : codec.AtMost limit

end NodeBus
