import Mathlib
import NodeBus.Proofs.Deframing
import NodeBus.Proofs.LongDivision
import NodeBus.Proofs.Sealing

/-!
# Errors the checksums find

Both checksum registers divide the bits of a body, the short one the lowest bit of each byte first and the long
one the highest (`Variant.bits_checkBytes`). The remainder of a body and its checksum together is zero once the
checksum's own bytes stand the same way round, which for the long one they do not when they are sent
(`Variant.arranged`). So if a damaged body passes, the bits in which it differs from what was sent leave no
remainder either (`Variant.divides_difference`), and what is known of such strings says which damage is found.
-/
namespace NodeBus

namespace Bits

/-! ### The bits of a word -/

/-- The bits of a word, the lowest first. -/
def lowFirst {width : Nat} (word : BitVec width) : List Bool := (List.range width).map word.getLsbD

/-- The bits of a word, the highest first. -/
def highFirst {width : Nat} (word : BitVec width) : List Bool := (lowFirst word).reverse

section Words

variable {width : Nat}

@[simp] theorem length_lowFirst (word : BitVec width) : (lowFirst word).length = width := by simp [lowFirst]

@[simp] theorem length_highFirst (word : BitVec width) : (highFirst word).length = width := by simp [highFirst]

theorem lowFirst_xor (one other : BitVec width) :
    lowFirst (one ^^^ other) = add (lowFirst one) (lowFirst other) := by
  simp [lowFirst, add, List.zipWith_map, List.zipWith_self]

theorem highFirst_xor (one other : BitVec width) :
    highFirst (one ^^^ other) = add (highFirst one) (highFirst other) := by
  have widths : (lowFirst one).length = (lowFirst other).length := by simp
  rw [highFirst, lowFirst_xor, add, List.reverse_zipWith widths]
  rfl

theorem lowFirst_inj {one other : BitVec width} (same : lowFirst one = lowFirst other) : one = other := by
  refine BitVec.eq_of_getLsbD_eq fun position inside => ?_
  exact List.map_inj_left.mp same position (List.mem_range.mpr inside)

theorem highFirst_inj {one other : BitVec width} (same : highFirst one = highFirst other) : one = other :=
  lowFirst_inj (List.reverse_injective same)

theorem lowFirst_append {more : Nat} (high : BitVec more) (low : BitVec width) :
    lowFirst (high ++ low) = lowFirst low ++ lowFirst high := by
  have split : List.range (more + width) = List.range width ++ (List.range more).map (width + ·) := by
    rw [Nat.add_comm, List.range_add]
  rw [lowFirst, split, List.map_append, List.map_map]
  congr 1
  · refine List.map_congr_left fun position inside => ?_
    have before : position < width := List.mem_range.mp inside
    simp [BitVec.getLsbD_append, before]
  · refine List.map_congr_left fun position inside => ?_
    simp [BitVec.getLsbD_append]

theorem highFirst_append {more : Nat} (high : BitVec more) (low : BitVec width) :
    highFirst (high ++ low) = highFirst high ++ highFirst low := by
  rw [highFirst, lowFirst_append, List.reverse_append]
  rfl

theorem lowFirst_shifted (word : BitVec (width + 1)) :
    ∃ rest, lowFirst word = word.getLsbD 0 :: rest ∧ lowFirst (word >>> 1) = rest ++ [false] := by
  refine ⟨(List.range width).map fun position => word.getLsbD (1 + position), ?_, ?_⟩
  · simp [lowFirst, List.range_succ_eq_map, Nat.add_comm]
  · simp [lowFirst, List.range_succ, Nat.add_comm]

theorem highFirst_shifted (word : BitVec (width + 1)) :
    ∃ rest, highFirst word = word.getLsbD width :: rest ∧ highFirst (word <<< 1) = rest ++ [false] := by
  refine ⟨((List.range width).map word.getLsbD).reverse, ?_, ?_⟩
  · simp [highFirst, lowFirst, List.range_succ]
  · have moved : lowFirst (word <<< 1) = false :: (List.range width).map word.getLsbD := by
      simp only [lowFirst, List.range_succ_eq_map, List.map_cons, List.map_map, List.cons.injEq]
      refine ⟨by simp, List.map_congr_left fun position inside => ?_⟩
      have below : position < width := List.mem_range.mp inside
      simp [below, BitVec.getLsbD_eq_getElem (Nat.lt_succ_of_lt below)]
    rw [highFirst, moved, List.reverse_cons]

end Words

end Bits

open Bits

namespace Variant

/-- The bits of a byte in the order in which they are taken into the checksum. -/
def bitsOf (variant : Variant) (byte : UInt8) : List Bool :=
  match variant with
  | .crc8 => lowFirst byte.toBitVec
  | .crc16 => highFirst byte.toBitVec

/-- The bits of a body in the order in which they are taken into the checksum. -/
def bits (variant : Variant) (body : List UInt8) : List Bool := body.flatMap variant.bitsOf

/-- What the checksum divides by: x^8+x^5+x^4+1 and x^16+x^12+x^5+1. -/
def divisor : Variant → Divisor
  | .crc8 => ⟨lowFirst 0x8C#8, by decide, by decide⟩
  | .crc16 => ⟨highFirst 0x1021#16, by decide, by decide⟩

theorem degree_divisor (variant : Variant) : variant.divisor.degree = 8 * variant.length := by
  cases variant <;> rfl

end Variant

/-! ### The registers divide -/

namespace Checksum

section Registers

variable {Register : Type} {divisor : Divisor} {view : Register → List Bool}

theorem view_repeat {shift : Register → Register}
    (moves : ∀ register, view (shift register) = divisor.shift (view register)) (count : Nat)
    (register : Register) : view (Nat.repeat shift count register) = divisor.shift^[count] (view register) := by
  induction count with
  | zero => rfl
  | succ count ih => rw [Nat.repeat, moves, ih, Function.iterate_succ_apply']

theorem view_foldl {absorb : Register → UInt8 → Register} {order : UInt8 → List Bool}
    (absorbs : ∀ register byte, view (absorb register byte) = divisor.divide (view register) (order byte))
    (data : List UInt8) (register : Register) :
    view (data.foldl absorb register) = divisor.divide (view register) (data.flatMap order) := by
  induction data generalizing register with
  | nil => rfl
  | cons byte data ih =>
    rw [List.foldl_cons, ih, absorbs, List.flatMap_cons, Divisor.divide_append]

end Registers

theorem lowFirst_shift8 (register : BitVec 8) :
    lowFirst (shift8 register) = Variant.crc8.divisor.shift (lowFirst register) := by
  obtain ⟨rest, bits, moved⟩ := lowFirst_shifted register
  rw [bits, Divisor.shift_cons, shift8]
  cases register.getLsbD 0 with
  | false => exact moved
  | true =>
    rw [if_pos rfl, if_pos rfl, lowFirst_xor, moved]
    rfl

theorem highFirst_shift16 (register : BitVec 16) :
    highFirst (shift16 register) = Variant.crc16.divisor.shift (highFirst register) := by
  obtain ⟨rest, bits, moved⟩ := highFirst_shifted register
  rw [bits, Divisor.shift_cons, shift16]
  cases register.getLsbD 15 with
  | false => exact moved
  | true =>
    rw [if_pos rfl, if_pos rfl, highFirst_xor, moved]
    rfl

theorem setWidth_shiftLeft (byte : BitVec 8) : byte.setWidth 16 <<< 8 = byte ++ 0#8 := by
  refine BitVec.eq_of_getLsbD_eq fun position inside => ?_
  rw [BitVec.getLsbD_append, BitVec.getLsbD_shiftLeft, BitVec.getLsbD_setWidth]
  by_cases low : position < 8
  · simp [low]
  · simp [low, inside]
    omega

/-- A word is its high byte and its low one. -/
theorem halves_append (word : UInt16) : (word >>> 8).toUInt8.toBitVec ++ word.toUInt8.toBitVec = word.toBitVec := by
  refine BitVec.eq_of_getLsbD_eq fun position inside => ?_
  rw [BitVec.getLsbD_append]
  by_cases low : position < 8
  · simp [low]
  · have high : position - 8 < 8 := by omega
    have back : position - 8 + 8 = position := by omega
    simp [low, high, Nat.add_comm 8, back]

theorem lowFirst_absorb8 (register : BitVec 8) (byte : UInt8) :
    lowFirst (absorb8 register byte) =
      Variant.crc8.divisor.divide (lowFirst register) (Variant.crc8.bitsOf byte) := by
  have fits : (lowFirst byte.toBitVec).length + 0 = Variant.crc8.divisor.degree := rfl
  have loaded : lowFirst byte.toBitVec = lowFirst byte.toBitVec ++ zeros 0 := (List.append_nil _).symm
  have divided := Divisor.divide_eq_iterate (length_lowFirst register) fits
  rw [length_lowFirst, ← loaded, ← lowFirst_xor] at divided
  exact (view_repeat lowFirst_shift8 8 _).trans divided.symm

theorem highFirst_absorb16 (register : BitVec 16) (byte : UInt8) :
    highFirst (absorb16 register byte) =
      Variant.crc16.divisor.divide (highFirst register) (Variant.crc16.bitsOf byte) := by
  have fits : (highFirst byte.toBitVec).length + 8 = Variant.crc16.divisor.degree := rfl
  have loaded : highFirst (byte.toBitVec.setWidth 16 <<< 8) = highFirst byte.toBitVec ++ zeros 8 := by
    rw [setWidth_shiftLeft, highFirst_append]
    rfl
  have divided := Divisor.divide_eq_iterate (length_highFirst register) fits
  rw [length_highFirst, ← loaded, ← highFirst_xor] at divided
  exact (view_repeat highFirst_shift16 8 _).trans divided.symm

theorem lowFirst_crc8 (body : List UInt8) :
    lowFirst (crc8 body).toBitVec =
      Variant.crc8.divisor.divide (zeros Variant.crc8.divisor.degree) (Variant.crc8.bits body) :=
  view_foldl lowFirst_absorb8 body 0#8

theorem highFirst_crc16 (body : List UInt8) :
    highFirst (crc16 body).toBitVec =
      Variant.crc16.divisor.divide (zeros Variant.crc16.divisor.degree) (Variant.crc16.bits body) :=
  view_foldl highFirst_absorb16 body 0#16

end Checksum

namespace Variant

/-- The checksum's bytes, the other way round than they are sent, are the remainder of the body. -/
theorem bits_checkBytes (variant : Variant) (body : List UInt8) :
    variant.bits (variant.checkBytes body).reverse =
      variant.divisor.divide (zeros variant.divisor.degree) (variant.bits body) := by
  cases variant with
  | crc8 => exact (List.append_nil _).trans (Checksum.lowFirst_crc8 body)
  | crc16 =>
    rw [← Checksum.highFirst_crc16, ← Checksum.halves_append, highFirst_append]
    exact congrArg _ (List.append_nil _)

/-! ### The bits of a body -/

theorem length_bitsOf (variant : Variant) (byte : UInt8) : (variant.bitsOf byte).length = 8 := by
  cases variant
  · exact length_lowFirst _
  · exact length_highFirst _

theorem bitsOf_inj {variant : Variant} {one other : UInt8} (same : variant.bitsOf one = variant.bitsOf other) :
    one = other := by
  cases variant
  · exact UInt8.toBitVec_inj.mp (lowFirst_inj same)
  · exact UInt8.toBitVec_inj.mp (highFirst_inj same)

theorem bitsOf_xor (variant : Variant) (one other : UInt8) :
    variant.bitsOf (one ^^^ other) = add (variant.bitsOf one) (variant.bitsOf other) := by
  cases variant
  · exact lowFirst_xor _ _
  · exact highFirst_xor _ _

theorem bits_cons (variant : Variant) (byte : UInt8) (body : List UInt8) :
    variant.bits (byte :: body) = variant.bitsOf byte ++ variant.bits body := List.flatMap_cons

theorem bits_append (variant : Variant) (body more : List UInt8) :
    variant.bits (body ++ more) = variant.bits body ++ variant.bits more := List.flatMap_append

theorem length_bits (variant : Variant) (body : List UInt8) : (variant.bits body).length = 8 * body.length := by
  induction body with
  | nil => rfl
  | cons byte body ih =>
    rw [bits_cons, List.length_append, length_bitsOf, ih, List.length_cons]
    omega

theorem bits_perm (variant : Variant) {one other : List UInt8} (moved : one.Perm other) :
    (variant.bits one).Perm (variant.bits other) := moved.flatMap_right _

theorem bits_inj {variant : Variant} {one other : List UInt8} (length : one.length = other.length)
    (same : variant.bits one = variant.bits other) : one = other := by
  induction one generalizing other with
  | nil => exact (List.length_eq_zero_iff.mp length.symm).symm
  | cons byte one ih =>
    cases other with
    | nil => cases length
    | cons second other =>
      rw [bits_cons, bits_cons] at same
      have widths : (variant.bitsOf byte).length = (variant.bitsOf second).length := by
        rw [length_bitsOf, length_bitsOf]
      obtain ⟨first, rest⟩ := List.append_inj same widths
      rw [bitsOf_inj first, ih (Nat.succ.inj length) rest]

end Variant

/-- What is to be added to the one body to get the other. -/
def difference (one other : List UInt8) : List UInt8 := List.zipWith (· ^^^ ·) one other

theorem length_difference {one other : List UInt8} (length : other.length = one.length) :
    (difference one other).length = one.length := by
  rw [difference, List.length_zipWith, length, Nat.min_self]

namespace Variant

/-- Where two bodies differ, bit by bit in the order in which they are taken into the checksum. -/
def changes (variant : Variant) (one other : List UInt8) : List Bool := variant.bits (difference one other)

/-- In how many bits two bodies differ. -/
def flips (variant : Variant) (one other : List UInt8) : Nat := (variant.changes one other).count true

theorem length_changes (variant : Variant) {one other : List UInt8} (length : other.length = one.length) :
    (variant.changes one other).length = 8 * one.length := by
  rw [changes, length_bits, length_difference length]

theorem changes_eq (variant : Variant) (one other : List UInt8) :
    variant.changes one other = add (variant.bits one) (variant.bits other) := by
  induction one generalizing other with
  | nil => rfl
  | cons byte one ih =>
    cases other with
    | nil => exact (List.zipWith_nil_right).symm
    | cons second other =>
      have widths : (variant.bitsOf byte).length = (variant.bitsOf second).length := by
        rw [length_bitsOf, length_bitsOf]
      rw [bits_cons, bits_cons, add_append widths, ← ih, ← bitsOf_xor]
      rfl

/-- Bodies that differ nowhere are the same. -/
theorem eq_of_changes {variant : Variant} {one other : List UInt8} (length : other.length = one.length)
    (nowhere : variant.changes one other = zeros (variant.changes one other).length) : other = one := by
  have widths : (variant.bits one).length = (variant.bits other).length := by
    rw [length_bits, length_bits, length]
  rw [length_changes variant length, changes_eq, ← length_bits variant, add_eq_zeros_iff widths] at nowhere
  exact (bits_inj length.symm nowhere).symm

/-! ### The bits that a damaged body differs in -/

/-- The checksum's bytes stand the other way round. -/
def arranged (variant : Variant) (body : List UInt8) : List UInt8 :=
  body.take (body.length - variant.length) ++ (body.drop (body.length - variant.length)).reverse

theorem length_arranged (variant : Variant) (body : List UInt8) : (variant.arranged body).length = body.length := by
  rw [arranged, List.length_append, List.length_reverse, ← List.length_append, List.take_append_drop]

theorem arranged_append (variant : Variant) (front : List UInt8) {check : List UInt8}
    (length : check.length = variant.length) : variant.arranged (front ++ check) = front ++ check.reverse := by
  have behind : (front ++ check).length - variant.length = front.length := by
    rw [List.length_append, length, Nat.add_sub_cancel]
  rw [arranged, behind, List.take_left, List.drop_left]

theorem arranged_difference (variant : Variant) {one other : List UInt8} (length : other.length = one.length) :
    variant.arranged (difference one other) = difference (variant.arranged one) (variant.arranged other) := by
  have taken : (one.take (one.length - variant.length)).length =
      (other.take (one.length - variant.length)).length := by
    rw [List.length_take, List.length_take, length]
  have dropped : (one.drop (one.length - variant.length)).length =
      (other.drop (one.length - variant.length)).length := by
    rw [List.length_drop, List.length_drop, length]
  unfold arranged
  rw [length_difference length, length]
  unfold difference
  rw [List.zipWith_append taken, List.take_zipWith, List.drop_zipWith, List.reverse_zipWith dropped]

theorem count_arranged (variant : Variant) (body : List UInt8) :
    (variant.bits (variant.arranged body)).count true = (variant.bits body).count true := by
  have moved : (variant.arranged body).Perm body := by
    have turned := (List.reverse_perm (body.drop (body.length - variant.length))).append_left
      (body.take (body.length - variant.length))
    rw [List.take_append_drop] at turned
    exact turned
  exact (variant.bits_perm moved).count_eq true

/-- A body that passes leaves no remainder. -/
theorem divides_of_passes {variant : Variant} {body : List UInt8} (good : variant.passes body = true) :
    variant.divisor.Divides (variant.bits (variant.arranged body)) := by
  obtain ⟨front, whole⟩ := (variant.passes_iff_sealed body).mp good
  rw [whole, arranged_append variant front (variant.length_checkBytes front), bits_append, bits_checkBytes]
  exact variant.divisor.divides_append_remainder _

/-- If the damage is not found, the bits it changed leave no remainder. -/
theorem divides_difference {variant : Variant} {sent received : List UInt8}
    (length : received.length = sent.length) (good : variant.passes sent = true)
    (passed : variant.passes received = true) :
    variant.divisor.Divides (variant.bits (variant.arranged (difference sent received))) := by
  have widths : (variant.bits (variant.arranged sent)).length =
      (variant.bits (variant.arranged received)).length := by
    rw [length_bits, length_bits, length_arranged, length_arranged, length]
  rw [arranged_difference variant length]
  change variant.divisor.Divides (variant.changes _ _)
  rw [changes_eq]
  exact Divisor.divides_add widths (divides_of_passes good) (divides_of_passes passed)

/-- What leaves a remainder is found. -/
theorem refused_of_remainder {variant : Variant} {sent received : List UInt8} (good : variant.passes sent = true)
    (length : received.length = sent.length)
    (remainder : ¬ variant.divisor.Divides (variant.bits (variant.arranged (difference sent received)))) :
    variant.passes received = false :=
  Bool.of_not_eq_true fun passed => remainder (divides_difference length good passed)

/-! ### What is found -/

/-- Such damage is always found: of two bodies of one length that differ in that way, at most one passes. -/
def Detects (variant : Variant) (damage : List UInt8 → List UInt8 → Prop) : Prop :=
  ∀ sent received, variant.passes sent = true → received.length = sent.length → received ≠ sent →
    damage sent received → variant.passes received = false

theorem detects_odd (variant : Variant) :
    variant.Detects fun sent received => Odd (variant.flips sent received) := by
  intro sent received good length _ odd
  refine refused_of_remainder good length fun divides => ?_
  have even := Divisor.even_of_divides divides
  rw [count_arranged] at even
  exact even odd

theorem detects_two {variant : Variant} {limit : Nat} (fresh : variant.divisor.Fresh (8 * limit)) :
    variant.Detects fun sent received => variant.flips sent received = 2 ∧ sent.length ≤ limit := by
  intro sent received good length _ damage
  obtain ⟨two, short⟩ := damage
  have width : (variant.bits (variant.arranged (difference sent received))).length = 8 * sent.length := by
    rw [length_bits, length_arranged, length_difference length]
  have before : variant.divisor.Fresh (variant.bits (variant.arranged (difference sent received))).length := by
    intro distance positive near
    exact fresh distance positive (by omega)
  have count := (count_arranged variant _).trans two
  exact refused_of_remainder good length (Divisor.not_divides_of_fresh before count)

/-- Up to three bits. -/
theorem detects_few {variant : Variant} {limit : Nat} (fresh : variant.divisor.Fresh (8 * limit)) :
    variant.Detects fun sent received => variant.flips sent received ≤ 3 ∧ sent.length ≤ limit := by
  intro sent received good length changed damage
  obtain ⟨few, short⟩ := damage
  have some : variant.flips sent received ≠ 0 := by
    intro none
    have nowhere : variant.changes sent received = zeros (variant.changes sent received).length :=
      eq_zeros fun position one => List.count_eq_zero.mp none (List.mem_of_getElem? one)
    exact changed (eq_of_changes length nowhere)
  by_cases two : variant.flips sent received = 2
  · exact detects_two fresh sent received good length changed ⟨two, short⟩
  · have odd : Odd (variant.flips sent received) := by
      rw [Nat.odd_iff]
      omega
    exact detects_odd variant sent received good length changed odd

/-- Bits that stand together, as long as it does not matter which way round the checksum's bytes stand. -/
theorem refused_of_clustered {variant : Variant} {sent received : List UInt8} (good : variant.passes sent = true)
    (length : received.length = sent.length) (changed : received ≠ sent)
    (either : variant.arranged (difference sent received) = difference sent received) {first width : Nat}
    (close : Within (variant.changes sent received) first width) (fits : width ≤ 8 * variant.length) :
    variant.passes received = false := by
  refine refused_of_remainder good length fun divides => ?_
  rw [either] at divides
  rw [← degree_divisor] at fits
  exact changed (eq_of_changes length (Divisor.zeros_of_divides close fits divides))

/-- A checksum of one byte stands the same either way round. -/
theorem arranged_crc8 (body : List UInt8) : crc8.arranged body = body := by
  have last : (body.drop (body.length - 1)).reverse = body.drop (body.length - 1) := by
    have short : (body.drop (body.length - 1)).length ≤ 1 := by
      rw [List.length_drop]
      omega
    match body.drop (body.length - 1), short with
    | [], _ => rfl
    | [_], _ => rfl
  exact (congrArg _ last).trans (List.take_append_drop _ _)

/-- Bytes without a one stand the same either way round. -/
theorem reverse_of_zeros {variant : Variant} {check : List UInt8} {count : Nat}
    (none : variant.bits check = zeros count) : check.reverse = check := by
  have moved : (variant.bits check.reverse).Perm (zeros count) := none ▸ variant.bits_perm check.reverse_perm
  have turned : variant.bits check.reverse = zeros count := List.perm_replicate.mp moved
  exact bits_inj List.length_reverse (turned.trans none.symm)

/-- An undamaged checksum stands the same either way round. -/
theorem arranged_of_within {variant : Variant} {body : List UInt8}
    (front : Within (variant.bits body) 0 (8 * (body.length - variant.length))) : variant.arranged body = body := by
  have split : variant.bits body = variant.bits (body.take (body.length - variant.length)) ++
      variant.bits (body.drop (body.length - variant.length)) := by
    rw [← bits_append, List.take_append_drop]
  have width : (variant.bits (body.take (body.length - variant.length))).length =
      8 * (body.length - variant.length) := by
    rw [length_bits, List.length_take, Nat.min_eq_left (Nat.sub_le _ _)]
  have none : variant.bits (body.drop (body.length - variant.length)) =
      zeros (variant.bits (body.drop (body.length - variant.length))).length := by
    refine eq_zeros fun position one => ?_
    have behind : (variant.bits body)[8 * (body.length - variant.length) + position]? = some true := by
      rw [split, ← width, List.getElem?_append_right (Nat.le_add_right _ _), Nat.add_sub_cancel_left]
      exact one
    have before := (front _ behind).2
    omega
  have turned := reverse_of_zeros none
  rw [arranged, turned, List.take_append_drop]

theorem fresh_crc8 : crc8.divisor.Fresh (8 * 15) :=
  Divisor.fresh_of_notMem (by decide +kernel)

theorem fresh_crc16 : crc16.divisor.Fresh (8 * Frame.maxBody) :=
  Divisor.fresh_of_notMem (by decide +kernel)

end Variant

/-- What the short checksum does: it is the one byte that completes a body, and it finds an odd number of damaged
bits, damage within eight bits in the order in which they travel, and two damaged bits in up to fifteen bytes. -/
structure ShortDetection : Prop where
  completes : ∀ body last, Checksum.crc8Ok (body ++ [last]) = true ↔ last = Checksum.crc8 body
  odd : Variant.crc8.Detects fun sent received => Odd (Variant.crc8.flips sent received)
  burst : Variant.crc8.Detects fun sent received => ∃ first, Within (Variant.crc8.changes sent received) first 8
  two : Variant.crc8.Detects fun sent received => Variant.crc8.flips sent received = 2 ∧ sent.length ≤ 15

/-- What the long checksum finds: an odd number of damaged bits, damage within sixteen bits in front of the
checksum, the highest bit of each byte first, and two damaged bits in a body within the receiver's limit of
twenty-one bytes. So it finds every damage of up to three bits in such a body, and in whatever body a deframer
takes from the line. -/
structure LongDetection : Prop where
  odd : Variant.crc16.Detects fun sent received => Odd (Variant.crc16.flips sent received)
  burst : Variant.crc16.Detects fun sent received =>
    ∃ first, Within (Variant.crc16.changes sent received) first 16 ∧
      Within (Variant.crc16.changes sent received) 0 (8 * (sent.length - 2))
  two : Variant.crc16.Detects fun sent received =>
    Variant.crc16.flips sent received = 2 ∧ sent.length ≤ Frame.maxBody
  few : Variant.crc16.Detects fun sent received =>
    Variant.crc16.flips sent received ≤ 3 ∧ sent.length ≤ Frame.maxBody
  deframed : ∀ stream, Variant.crc16.Detects fun sent received =>
    Variant.crc16.flips sent received ≤ 3 ∧ received = (Deframer.run {} stream).deframer.body

/-- **The short checksum finds what it should**, in bodies of any length unless a limit is named. -/
theorem short_detection : ShortDetection where
  completes := by
    intro body last
    rw [← Checksum.crc8_concat_eq_zero_iff]
    simp [Checksum.crc8Ok]
  odd := Variant.detects_odd _
  burst := by
    intro sent received good length changed damage
    obtain ⟨first, close⟩ := damage
    exact Variant.refused_of_clustered good length changed (Variant.arranged_crc8 _) close (Nat.le_refl _)
  two := Variant.detects_two Variant.fresh_crc8

/-- In sixteen bytes two damaged bits may go unnoticed. -/
example : Checksum.crc8Ok (List.replicate 16 0x00) = true ∧
    Checksum.crc8Ok (0x01 :: List.replicate 14 0x00 ++ [0x80]) = true := by decide +kernel

/-- **The long checksum finds what it should**, in bodies of any length unless a limit is named. -/
theorem long_detection : LongDetection where
  odd := Variant.detects_odd _
  burst := by
    intro sent received good length changed damage
    obtain ⟨first, close, front⟩ := damage
    rw [← length_difference length] at front
    exact Variant.refused_of_clustered good length changed (Variant.arranged_of_within front) close (Nat.le_refl _)
  two := Variant.detects_two Variant.fresh_crc16
  few := Variant.detects_few Variant.fresh_crc16
  deframed := by
    intro stream sent received good length changed damage
    obtain ⟨few, body⟩ := damage
    have bound : received.length ≤ Frame.maxBody := by
      rw [body]
      exact Deframer.length_body_run_le stream
    exact Variant.detects_few Variant.fresh_crc16 sent received good length changed ⟨few, length ▸ bound⟩

/-- Damage over seventeen bits may go unnoticed. -/
example : Checksum.crc16Ok (List.replicate 5 0x00) = true ∧
    Checksum.crc16Ok [0x01, 0x10, 0x21, 0x00, 0x00] = true := by decide +kernel

end NodeBus
