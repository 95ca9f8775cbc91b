import Mathlib

/-!
# Long division of bit strings

A checksum register holds a remainder. The bits of a message are added, one by one, to the bit that leaves the
register next, and whenever a one leaves, the divisor is added to what is left. Bits stand in the order in
which they travel, so the register's first bit is the next to leave, and a divisor is written without its
leading one, highest coefficient first.

Division is linear (`divide_add`) and, as a divisor ends in a one, forgets nothing (`iterate_shift_eq_zeros`).
So a message without a remainder has an even number of ones if the divisor has (`even_of_divides`), is all
zeros if its ones stand close together (`zeros_of_divides`), and does not have just two of them unless the divisor
comes back to where it started within their distance (`not_divides_of_fresh`).
-/
namespace NodeBus

namespace Bits

/-! ### Bit strings -/

/-- As many zeros. -/
def zeros (count : Nat) : List Bool := List.replicate count false

/-- Bit by bit, without carry. -/
def add (one other : List Bool) : List Bool := List.zipWith xor one other

@[simp] theorem length_zeros (count : Nat) : (zeros count).length = count := List.length_replicate

@[simp] theorem length_add (one other : List Bool) : (add one other).length = min one.length other.length :=
  List.length_zipWith

theorem zeros_succ (count : Nat) : zeros (count + 1) = false :: zeros count := rfl

theorem zeros_append (count more : Nat) : zeros count ++ zeros more = zeros (count + more) :=
  List.replicate_append_replicate

theorem add_cons (bit other : Bool) (one two : List Bool) :
    add (bit :: one) (other :: two) = (bit ^^ other) :: add one two := rfl

theorem add_append {one other : List Bool} (same : one.length = other.length) (rest more : List Bool) :
    add (one ++ rest) (other ++ more) = add one other ++ add rest more :=
  List.zipWith_append same

theorem add_comm (one other : List Bool) : add one other = add other one :=
  List.zipWith_comm_of_comm Bool.xor_comm

theorem add_assoc (one other third : List Bool) : add (add one other) third = add one (add other third) := by
  induction one generalizing other third with
  | nil => rfl
  | cons bit one ih =>
    cases other with
    | nil => rfl
    | cons second other =>
      cases third with
      | nil => rfl
      | cons last third => simp [add_cons, ih]

instance : Std.Commutative add := ⟨add_comm⟩

instance : Std.Associative add := ⟨add_assoc⟩

theorem add_zeros {one : List Bool} {count : Nat} (short : one.length ≤ count) : add one (zeros count) = one := by
  induction one generalizing count with
  | nil => rfl
  | cons bit one ih =>
    cases count with
    | zero => cases short
    | succ count =>
      rw [zeros_succ, add_cons, ih (Nat.le_of_succ_le_succ short), Bool.xor_false]

theorem add_self (one : List Bool) : add one one = zeros one.length := by
  induction one with
  | nil => rfl
  | cons bit one ih => rw [add_cons, ih, Bool.xor_self, List.length_cons, zeros_succ]

/-- Two strings of one length differ nowhere only if they are the same. -/
theorem add_eq_zeros_iff {one other : List Bool} (same : one.length = other.length) :
    add one other = zeros one.length ↔ one = other := by
  constructor
  · intro nowhere
    calc one = add one (zeros one.length) := (add_zeros (Nat.le_refl _)).symm
      _ = add one (add one other) := by rw [nowhere]
      _ = add (add one one) other := (add_assoc _ _ _).symm
      _ = add other (zeros other.length) := by rw [add_self, same, add_comm]
      _ = other := add_zeros (Nat.le_refl _)
  · intro equal
    rw [← equal]
    exact add_self one

/-- A string without ones. -/
theorem eq_zeros {bits : List Bool} (none : ∀ position : Nat, bits[position]? ≠ some true) :
    bits = zeros bits.length := by
  refine List.eq_replicate_of_mem fun bit among => ?_
  obtain ⟨position, here⟩ := List.mem_iff_getElem?.mp among
  cases bit with
  | false => rfl
  | true => exact absurd here (none position)

/-- Up to its first one a string is zeros. -/
theorem split_at_one {bits : List Bool} {count : Nat} (some : bits.count true = count + 1) :
    ∃ before rest, bits = zeros before ++ true :: rest ∧ rest.count true = count := by
  induction bits with
  | nil => cases some
  | cons bit bits ih =>
    cases bit with
    | true => exact ⟨0, bits, rfl, by simpa using some⟩
    | false =>
      obtain ⟨before, rest, split, later⟩ := ih (by simpa using some)
      exact ⟨before + 1, rest, congrArg (false :: ·) split, later⟩

/-- A string with two ones is zeros but for them. -/
theorem split_two_ones {bits : List Bool} (two : bits.count true = 2) :
    ∃ before between behind, bits = zeros before ++ (true :: zeros between ++ [true]) ++ zeros behind := by
  obtain ⟨before, rest, first, one⟩ := split_at_one two
  obtain ⟨between, tail, second, none⟩ := split_at_one one
  refine ⟨before, between, tail.length, ?_⟩
  have last : tail = zeros tail.length :=
    eq_zeros fun position one => List.count_eq_zero.mp none (List.mem_of_getElem? one)
  rw [first, second, ← last]
  simp

/-- Every one of the string is among `width` consecutive bits, the first of them at `first`. -/
def Within (bits : List Bool) (first width : Nat) : Prop :=
  ∀ position : Nat, bits[position]? = some true → first ≤ position ∧ position < first + width

/-- A string whose ones stand together is zeros around them. -/
theorem Within.split {bits : List Bool} {first width : Nat} (close : Within bits first width) :
    ∃ before window behind, bits = zeros before ++ window ++ zeros behind ∧ window.length ≤ width := by
  have parts : bits = bits.take first ++ ((bits.drop first).take width ++ (bits.drop first).drop width) := by
    rw [List.take_append_drop, List.take_append_drop]
  have ahead : bits.take first = zeros (bits.take first).length := by
    refine eq_zeros fun position one => ?_
    have inside : position < first := by
      by_contra outside
      rw [List.getElem?_take_eq_none (Nat.le_of_not_lt outside)] at one
      cases one
    rw [List.getElem?_take_of_lt inside] at one
    exact absurd (close position one).1 (Nat.not_le_of_lt inside)
  have behind : (bits.drop first).drop width = zeros ((bits.drop first).drop width).length := by
    refine eq_zeros fun position one => ?_
    rw [List.drop_drop, List.getElem?_drop] at one
    exact absurd (close _ one).2 (Nat.not_lt_of_le (Nat.le_add_right _ _))
  have window : ((bits.drop first).take width).length ≤ width := List.length_take_le _ _
  refine ⟨(bits.take first).length, _, ((bits.drop first).drop width).length, ?_, window⟩
  rw [← ahead, ← behind, List.append_assoc]
  exact parts

/-! ### Whether the number of ones is odd -/

/-- The sum of all bits. -/
def parity (bits : List Bool) : Bool := bits.foldr xor false

theorem parity_cons (bit : Bool) (bits : List Bool) : parity (bit :: bits) = (bit ^^ parity bits) := rfl

theorem parity_append (one other : List Bool) : parity (one ++ other) = (parity one ^^ parity other) := by
  induction one with
  | nil => exact (Bool.false_xor _).symm
  | cons bit one ih => rw [List.cons_append, parity_cons, parity_cons, ih, Bool.xor_assoc]

theorem parity_add {one other : List Bool} (same : one.length = other.length) :
    parity (add one other) = (parity one ^^ parity other) := by
  induction one generalizing other with
  | nil =>
    have nothing : other = [] := List.length_eq_zero_iff.mp same.symm
    rw [nothing]
    rfl
  | cons bit one ih =>
    cases other with
    | nil => cases same
    | cons second other =>
      rw [add_cons, parity_cons, parity_cons, parity_cons, ih (Nat.succ.inj same)]
      cases bit <;> cases second <;> simp

theorem parity_zeros (count : Nat) : parity (zeros count) = false := by
  induction count with
  | zero => rfl
  | succ count ih => rw [zeros_succ, parity_cons, ih, Bool.false_xor]

theorem parity_iff (bits : List Bool) : parity bits = true ↔ Odd (bits.count true) := by
  induction bits with
  | nil => decide
  | cons bit bits ih =>
    cases bit with
    | false => simpa [parity_cons] using ih
    | true =>
      rw [parity_cons, List.count_cons_self, Nat.odd_add_one, ← ih]
      simp

end Bits

open Bits

/-! ### Division -/

/-- What a message is divided by: its leading one is left out, it ends in a one, and with the leading one it
has an even number of ones. -/
structure Divisor where
  taps : List Bool
  constant : taps.getLast? = some true
  balanced : parity taps = true

namespace Divisor

/-- How many bits the remainder has. -/
def degree (divisor : Divisor) : Nat := divisor.taps.length

variable (divisor : Divisor)

/-- The register once its first bit has left. -/
def shift : List Bool → List Bool
  | [] => []
  | out :: rest => if out then add (rest ++ [false]) divisor.taps else rest ++ [false]

/-- A register with a single one, in the bit that leaves next. -/
def unit : List Bool := true :: zeros (divisor.degree - 1)

/-- One more bit of the message is added to the bit that leaves. -/
def push (register : List Bool) (bit : Bool) : List Bool :=
  divisor.shift (add register (bit :: zeros (divisor.degree - 1)))

/-- The register after some more bits of the message. -/
def divide (register bits : List Bool) : List Bool := bits.foldl divisor.push register

/-- The message leaves no remainder. -/
def Divides (bits : List Bool) : Prop := divisor.divide (zeros divisor.degree) bits = zeros divisor.degree

theorem taps_eq : ∃ front, divisor.taps = front ++ [true] ∧ divisor.degree = front.length + 1 := by
  obtain ⟨front, split⟩ := List.getLast?_eq_some_iff.mp divisor.constant
  exact ⟨front, split, by rw [degree, split, List.length_append]; rfl⟩

theorem degree_pos : 0 < divisor.degree := by
  obtain ⟨front, -, degree⟩ := divisor.taps_eq
  omega

theorem cons_zeros (bit : Bool) : (bit :: zeros (divisor.degree - 1)).length = divisor.degree := by
  have positive := divisor.degree_pos
  rw [List.length_cons, length_zeros]
  omega

variable {divisor}

theorem shift_cons (divisor : Divisor) (out : Bool) (rest : List Bool) :
    divisor.shift (out :: rest) = if out then add (rest ++ [false]) divisor.taps else rest ++ [false] := rfl

theorem length_shift {register : List Bool} (length : register.length = divisor.degree) :
    (divisor.shift register).length = divisor.degree := by
  cases register with
  | nil => exact length
  | cons out rest =>
    have moved : (rest ++ [false]).length = divisor.degree := by
      rw [List.length_append]
      exact length
    have taps : divisor.taps.length = divisor.degree := rfl
    rw [shift_cons]
    split
    · rw [length_add, moved, taps, Nat.min_self]
    · exact moved

/-- Shifting is linear. -/
theorem shift_add {one other : List Bool} (length : one.length = divisor.degree)
    (same : other.length = divisor.degree) :
    divisor.shift (add one other) = add (divisor.shift one) (divisor.shift other) := by
  cases one with
  | nil => rfl
  | cons out rest =>
    cases other with
    | nil => simp [shift, add]
    | cons second more =>
      have rests : rest.length = more.length := Nat.succ.inj (length.trans same.symm)
      have taps : (rest ++ [false]).length = divisor.taps.length := by
        rw [List.length_append]
        exact length
      have sum : add (rest ++ [false]) (more ++ [false]) = add rest more ++ [false] := add_append rests _ _
      have within : (add (rest ++ [false]) (more ++ [false])).length ≤ divisor.taps.length := by
        rw [length_add, ← taps]
        exact Nat.min_le_left _ _
      cases out <;> cases second
      · simp [shift_cons, add_cons, sum]
      · simp only [shift_cons, add_cons, ← sum, Bool.false_xor, if_true, Bool.false_eq_true, if_false]
        ac_rfl
      · simp only [shift_cons, add_cons, ← sum, Bool.xor_false, if_true, Bool.false_eq_true, if_false]
        ac_rfl
      · simp only [shift_cons, add_cons, ← sum, Bool.xor_self, if_true, Bool.false_eq_true, if_false]
        -- the divisor is added twice, and so not at all
        calc add (rest ++ [false]) (more ++ [false])
            = add (add (rest ++ [false]) (more ++ [false])) (zeros divisor.taps.length) := (add_zeros within).symm
          _ = add (add (rest ++ [false]) (more ++ [false])) (add divisor.taps divisor.taps) := by rw [add_self]
          _ = _ := by ac_rfl

/-- Shifting forgets nothing: only the zero register ends at zero. -/
theorem shift_eq_zeros {register : List Bool} (length : register.length = divisor.degree) :
    divisor.shift register = zeros divisor.degree ↔ register = zeros divisor.degree := by
  obtain ⟨front, taps, degree⟩ := divisor.taps_eq
  cases register with
  | nil =>
    rw [← length]
    simp [shift]
  | cons out rest =>
    have rests : rest.length = front.length := Nat.succ.inj (length.trans degree)
    have split : zeros divisor.degree = zeros front.length ++ [false] := by
      rw [degree]
      exact (zeros_append _ 1).symm
    rw [shift_cons]
    cases out with
    | false =>
      rw [if_neg Bool.false_ne_true, split, List.append_left_inj, ← split, degree, zeros_succ]
      simp
    | true =>
      -- the divisor ends in a one, which nothing takes away
      have last : add (rest ++ [false]) divisor.taps = add rest front ++ [true] := by
        rw [taps, add_append rests]
        rfl
      rw [if_pos rfl, last]
      refine iff_of_false ?_ ?_
      · intro same
        cases (List.append_inj' (same.trans split) rfl).2
      · intro same
        rw [degree, zeros_succ] at same
        cases (List.cons.inj same).1

theorem length_iterate {register : List Bool} (length : register.length = divisor.degree) (count : Nat) :
    (divisor.shift^[count] register).length = divisor.degree := by
  induction count generalizing register with
  | zero => exact length
  | succ count ih => exact ih (length_shift length)

theorem iterate_shift_eq_zeros {register : List Bool} (length : register.length = divisor.degree)
    (count : Nat) :
    divisor.shift^[count] register = zeros divisor.degree ↔ register = zeros divisor.degree := by
  induction count generalizing register with
  | zero => rfl
  | succ count ih => rw [Function.iterate_succ_apply, ih (length_shift length), shift_eq_zeros length]

theorem length_push {register : List Bool} (length : register.length = divisor.degree) (bit : Bool) :
    (divisor.push register bit).length = divisor.degree := by
  apply length_shift
  rw [length_add, length, divisor.cons_zeros, Nat.min_self]

theorem push_false {register : List Bool} (length : register.length = divisor.degree) :
    divisor.push register false = divisor.shift register := by
  have nothing : false :: zeros (divisor.degree - 1) = zeros divisor.degree := by
    rw [← zeros_succ, Nat.sub_add_cancel divisor.degree_pos]
  rw [push, nothing, add_zeros length.le]

theorem push_add {one other : List Bool} (length : one.length = divisor.degree)
    (same : other.length = divisor.degree) (bit second : Bool) :
    divisor.push (add one other) (bit ^^ second) = add (divisor.push one bit) (divisor.push other second) := by
  have bits : (bit ^^ second) :: zeros (divisor.degree - 1) =
      add (bit :: zeros (divisor.degree - 1)) (second :: zeros (divisor.degree - 1)) := by
    rw [add_cons, add_self, length_zeros]
  have one_length : (add one (bit :: zeros (divisor.degree - 1))).length = divisor.degree := by
    rw [length_add, length, divisor.cons_zeros, Nat.min_self]
  have other_length : (add other (second :: zeros (divisor.degree - 1))).length = divisor.degree := by
    rw [length_add, same, divisor.cons_zeros, Nat.min_self]
  unfold push
  rw [← shift_add one_length other_length, bits]
  congr 1
  ac_rfl

theorem divide_cons (divisor : Divisor) (register : List Bool) (bit : Bool) (bits : List Bool) :
    divisor.divide register (bit :: bits) = divisor.divide (divisor.push register bit) bits := rfl

theorem divide_append (divisor : Divisor) (register bits more : List Bool) :
    divisor.divide register (bits ++ more) = divisor.divide (divisor.divide register bits) more :=
  List.foldl_append

theorem length_divide {register : List Bool} (length : register.length = divisor.degree) (bits : List Bool) :
    (divisor.divide register bits).length = divisor.degree := by
  induction bits generalizing register with
  | nil => exact length
  | cons bit bits ih => exact ih (length_push length bit)

/-- Division is linear in the register and the message. -/
theorem divide_add {one other bits more : List Bool} (length : one.length = divisor.degree)
    (same : other.length = divisor.degree) (equal : bits.length = more.length) :
    divisor.divide (add one other) (add bits more) = add (divisor.divide one bits) (divisor.divide other more) := by
  induction bits generalizing one other more with
  | nil =>
    have nothing : more = [] := List.length_eq_zero_iff.mp equal.symm
    rw [nothing]
    rfl
  | cons bit bits ih =>
    cases more with
    | nil => cases equal
    | cons second more =>
      rw [add_cons, divide_cons, divide_cons, divide_cons, push_add length same,
        ih (length_push length bit) (length_push same second) (Nat.succ.inj equal)]

theorem divide_zeros {register : List Bool} (length : register.length = divisor.degree) (count : Nat) :
    divisor.divide register (zeros count) = divisor.shift^[count] register := by
  induction count generalizing register with
  | zero => rfl
  | succ count ih =>
    rw [zeros_succ, divide_cons, push_false length, ih (length_shift length), Function.iterate_succ_apply]

/-- Bits that fit into the register may as well be added to it at once, before it is shifted. -/
theorem divide_eq_iterate {register bits : List Bool} {room : Nat} (length : register.length = divisor.degree)
    (fits : bits.length + room = divisor.degree) :
    divisor.divide register bits = divisor.shift^[bits.length] (add register (bits ++ zeros room)) := by
  induction bits generalizing register room with
  | nil =>
    have all : room = divisor.degree := by simpa using fits
    rw [List.nil_append, all, add_zeros length.le]
    rfl
  | cons bit bits ih =>
    have later : bits.length + (room + 1) = divisor.degree := by
      rw [← fits, List.length_cons]
      omega
    have behind : (false :: (bits ++ zeros room)).length = divisor.degree := by
      rw [← fits]
      simp
      omega
    have front : (add register (bit :: zeros (divisor.degree - 1))).length = divisor.degree := by
      rw [length_add, length, divisor.cons_zeros, Nat.min_self]
    -- the bits behind the first are shifted along with the register
    have moved : bits ++ zeros (room + 1) = divisor.shift (false :: (bits ++ zeros room)) := by
      rw [shift_cons, if_neg Bool.false_ne_true, List.append_assoc]
      exact congrArg _ (zeros_append room 1).symm
    have joined : add (bit :: zeros (divisor.degree - 1)) (false :: (bits ++ zeros room)) =
        bit :: bits ++ zeros room := by
      have within : (bits ++ zeros room).length ≤ divisor.degree - 1 := by
        rw [List.length_append, length_zeros, ← fits, List.length_cons]
        omega
      rw [add_cons, Bool.xor_false, add_comm, add_zeros within]
      rfl
    rw [divide_cons, ih (length_push length bit) later, moved, push, ← shift_add front behind,
      List.length_cons, Function.iterate_succ_apply, add_assoc, joined]

/-! ### Messages without a remainder -/

theorem divides_add {one other : List Bool} (same : one.length = other.length) (left : divisor.Divides one)
    (right : divisor.Divides other) : divisor.Divides (add one other) := by
  have start : zeros divisor.degree = add (zeros divisor.degree) (zeros divisor.degree) :=
    (add_zeros (length_zeros _).le).symm
  calc divisor.divide (zeros divisor.degree) (add one other)
      = divisor.divide (add (zeros divisor.degree) (zeros divisor.degree)) (add one other) := by rw [← start]
    _ = add (divisor.divide (zeros divisor.degree) one) (divisor.divide (zeros divisor.degree) other) :=
        divide_add (length_zeros _) (length_zeros _) same
    _ = add (zeros divisor.degree) (zeros divisor.degree) := by rw [left, right]
    _ = zeros divisor.degree := start.symm

/-- A message with its own remainder behind it has none. -/
theorem divides_append_remainder (divisor : Divisor) (bits : List Bool) :
    divisor.Divides (bits ++ divisor.divide (zeros divisor.degree) bits) := by
  have length : (divisor.divide (zeros divisor.degree) bits).length = divisor.degree :=
    length_divide (length_zeros _) bits
  have full : (divisor.divide (zeros divisor.degree) bits).length + 0 = divisor.degree := length
  have padded : divisor.divide (zeros divisor.degree) bits ++ zeros 0 = divisor.divide (zeros divisor.degree) bits :=
    List.append_nil _
  rw [Divides, divide_append, divide_eq_iterate length full, padded, add_self, length]
  exact (iterate_shift_eq_zeros (length_zeros _) _).mpr rfl

theorem parity_shift {register : List Bool} (length : register.length = divisor.degree) :
    parity (divisor.shift register) = parity register := by
  cases register with
  | nil => rfl
  | cons out rest =>
    have taps : (rest ++ [false]).length = divisor.taps.length := by
      rw [List.length_append]
      exact length
    have moved : parity (rest ++ [false]) = parity rest := by
      rw [parity_append]
      exact Bool.xor_false _
    rw [shift_cons, parity_cons]
    cases out with
    | false => rw [if_neg Bool.false_ne_true, moved, Bool.false_xor]
    | true => rw [if_pos rfl, parity_add taps, moved, divisor.balanced, Bool.xor_comm]

/-- The remainder has as many ones as the message, up to an even number. -/
theorem parity_divide {register : List Bool} (length : register.length = divisor.degree) (bits : List Bool) :
    parity (divisor.divide register bits) = (parity register ^^ parity bits) := by
  induction bits generalizing register with
  | nil => exact (Bool.xor_false _).symm
  | cons bit bits ih =>
    have same : register.length = (bit :: zeros (divisor.degree - 1)).length :=
      length.trans (divisor.cons_zeros bit).symm
    have loaded : (add register (bit :: zeros (divisor.degree - 1))).length = divisor.degree := by
      rw [length_add, ← same, length, Nat.min_self]
    rw [divide_cons, ih (length_push length bit), push, parity_shift loaded, parity_add same, parity_cons,
      parity_cons, parity_zeros, Bool.xor_false, Bool.xor_assoc]

theorem even_of_divides {bits : List Bool} (divides : divisor.Divides bits) : ¬ Odd (bits.count true) := by
  rw [← parity_iff, Bool.not_eq_true]
  calc parity bits = parity (divisor.divide (zeros divisor.degree) bits) := by
        rw [parity_divide (length_zeros _), parity_zeros, Bool.false_xor]
    _ = parity (zeros divisor.degree) := congrArg parity divides
    _ = false := parity_zeros _

theorem divide_zeros_zeros (divisor : Divisor) (count : Nat) :
    divisor.divide (zeros divisor.degree) (zeros count) = zeros divisor.degree := by
  rw [divide_zeros (length_zeros _), iterate_shift_eq_zeros (length_zeros _)]

/-- Zeros before and behind a message change nothing. -/
theorem divides_pad (divisor : Divisor) (before behind : Nat) (bits : List Bool) :
    divisor.Divides (zeros before ++ bits ++ zeros behind) ↔ divisor.Divides bits := by
  have length : (divisor.divide (zeros divisor.degree) bits).length = divisor.degree :=
    length_divide (length_zeros _) bits
  rw [Divides, divide_append, divide_append, divide_zeros_zeros, divide_zeros length,
    iterate_shift_eq_zeros length]
  rfl

theorem zeros_of_fitting {bits : List Bool} {room : Nat} (fits : bits.length + room = divisor.degree)
    (divides : divisor.Divides bits) : bits = zeros bits.length := by
  have length : (bits ++ zeros room).length = divisor.degree := by
    rw [List.length_append, length_zeros, fits]
  rw [Divides, divide_eq_iterate (length_zeros _) fits, add_comm, add_zeros length.le,
    iterate_shift_eq_zeros length, ← fits, ← zeros_append] at divides
  exact List.append_cancel_right divides

/-- Ones that fit into the register together leave a remainder. -/
theorem zeros_of_divides {bits : List Bool} {first width : Nat} (close : Within bits first width)
    (fits : width ≤ divisor.degree) (divides : divisor.Divides bits) : bits = zeros bits.length := by
  obtain ⟨before, window, behind, split, short⟩ := close.split
  rw [split, divides_pad] at divides
  have nothing := zeros_of_fitting (Nat.add_sub_of_le (short.trans fits)) divides
  rw [split, nothing, zeros_append, zeros_append, length_zeros]

/-- Two ones cancel only if the divisor has come back to the first when the second arrives. -/
theorem returns_of_two_ones {between : Nat} (divides : divisor.Divides (true :: zeros between ++ [true])) :
    divisor.shift^[between + 1] divisor.unit = divisor.unit := by
  have length : divisor.unit.length = divisor.degree := divisor.cons_zeros true
  have first : divisor.push (zeros divisor.degree) true = divisor.shift divisor.unit := by
    rw [push, add_comm, add_zeros (divisor.cons_zeros true).le]
    rfl
  have ahead : divisor.divide (zeros divisor.degree) (true :: zeros between) =
      divisor.shift^[between + 1] divisor.unit := by
    rw [divide_cons, first, divide_zeros (length_shift length), Function.iterate_succ_apply]
  have arrived : (divisor.shift^[between + 1] divisor.unit).length = divisor.degree := length_iterate length _
  have joined : (add (divisor.shift^[between + 1] divisor.unit) divisor.unit).length = divisor.degree := by
    rw [length_add, arrived, length, Nat.min_self]
  rw [Divides, divide_append, ahead] at divides
  have cancelled : add (divisor.shift^[between + 1] divisor.unit) divisor.unit = zeros divisor.degree :=
    (shift_eq_zeros joined).mp divides
  rw [← arrived] at cancelled
  exact (add_eq_zeros_iff (arrived.trans length.symm)).mp cancelled

/-- Within that many bits the divisor does not come back to where it started. -/
def Fresh (divisor : Divisor) (span : Nat) : Prop :=
  ∀ distance, 0 < distance → distance < span → divisor.shift^[distance] divisor.unit ≠ divisor.unit

theorem fresh_of_notMem {span : Nat}
    (absent : divisor.unit ∉ List.iterate divisor.shift (divisor.shift divisor.unit) span) :
    divisor.Fresh (span + 1) := by
  intro distance positive near back
  obtain ⟨before, later⟩ := Nat.exists_eq_succ_of_ne_zero positive.ne'
  rw [later, Function.iterate_succ_apply] at back
  exact absent (List.mem_iterate.mpr ⟨before, by omega, back.symm⟩)

theorem not_divides_of_fresh {bits : List Bool} (fresh : divisor.Fresh bits.length) (two : bits.count true = 2) :
    ¬ divisor.Divides bits := by
  intro divides
  obtain ⟨before, between, behind, split⟩ := split_two_ones two
  have near : between + 1 < bits.length := by
    rw [split]
    simp
    omega
  rw [split, divides_pad] at divides
  exact fresh (between + 1) (Nat.succ_pos _) near (returns_of_two_ones divides)

end Divisor

end NodeBus
