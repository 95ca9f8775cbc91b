import NodeBus.Proofs.MonitorCalls

/-!
# What hex digits stand for

Pairs of digits are read and written against two things said apart from the readers: the sixteen numerals that
numbers below sixteen are written with (`upperPairs`, by `Nat.digitChar`), and the list of the characters that are
digits in one case or the other (`digits`). Reading accepts exactly the spellings of the bytes it gives
(`decode?_eq_some_iff`) and refuses exactly an odd number of characters or one that is no digit (`decode?_isSome_iff`).
Neither the value of a digit nor its length in UTF-8 depends on its case.
-/
namespace NodeBus.HexPairs

/-- The characters that are hex digits. -/
def digits : List Char :=
  ['0', '1', '2', '3', '4', '5', '6', '7', '8', '9', 'a', 'b', 'c', 'd', 'e', 'f', 'A', 'B', 'C', 'D', 'E', 'F']

/-- The hex pairs of some bytes in upper case, high digit first. -/
def upperPairs (bytes : List UInt8) : List Char :=
  bytes.flatMap fun byte => [(Nat.digitChar (byte.toNat / 16)).toUpper, (Nat.digitChar (byte.toNat % 16)).toUpper]

theorem pair_eq : ∀ byte : UInt8,
    pair byte = [(Nat.digitChar (byte.toNat / 16)).toUpper, (Nat.digitChar (byte.toNat % 16)).toUpper] := by
  decide +kernel

/-- Bytes are written as their upper-case pairs. -/
theorem encode_eq_upperPairs (bytes : List UInt8) : encode bytes = upperPairs bytes :=
  congrArg bytes.flatMap (funext pair_eq)

/-- Bytes that are written can be read: the digits spell them. -/
theorem spells_encode (bytes : List UInt8) : Spells (encode bytes) bytes := by
  simp [Spells, encode_eq_upperPairs, upperPairs, List.map_flatMap]

/-- What holds of every ASCII character is checked one by one. -/
theorem forall_ascii (holds : Char → Prop) (checked : ∀ code < 128, holds (Char.ofNat code)) {character : Char}
    (ascii : character.toNat < 128) : holds character := by
  have same := checked character.toNat ascii
  rwa [Char.ofNat_toNat] at same

theorem digitValue?_of_not_ascii {character : Char} (wide : ¬ character.toNat < 128) :
    digitValue? character = none := by
  have beyond : ∀ last : Char, last.toNat < 128 → ¬ character ≤ last := by
    intro last ascii inside
    exact wide (Nat.lt_of_le_of_lt (UInt32.le_iff_toNat_le.mp inside) ascii)
  simp only [digitValue?, beyond '9' (by decide), beyond 'f' (by decide), beyond 'F' (by decide), and_false, if_false]

theorem ascii_of_isLower {character : Char} (lower : character.isLower = true) : character.toNat < 128 := by
  simp only [Char.isLower, Bool.and_eq_true, decide_eq_true_eq] at lower
  exact Nat.lt_of_le_of_lt (UInt32.le_iff_toNat_le.mp lower.2) (by decide)

/-- Case changes neither the value of a digit nor the length of a character, and it ends no line. -/
theorem toUpper_read (character : Char) :
    digitValue? character.toUpper = digitValue? character ∧ character.toUpper.utf8Size = character.utf8Size ∧
      Monitor.isLineEnd character.toUpper = Monitor.isLineEnd character := by
  by_cases lower : character.isLower = true
  · exact forall_ascii (fun character => character.isLower = true →
      digitValue? character.toUpper = digitValue? character ∧ character.toUpper.utf8Size = character.utf8Size ∧
        Monitor.isLineEnd character.toUpper = Monitor.isLineEnd character)
      (by decide +kernel) (ascii_of_isLower lower) lower
  · rw [Char.toUpper_eq_of_not_isLower lower]
    exact ⟨rfl, rfl, rfl⟩

/-- A digit is read as the value it is written for. -/
theorem digit_of_digitValue? {character : Char} {value : UInt8} (read : digitValue? character = some value) :
    value < 16 ∧ character.toUpper = digit value := by
  by_cases ascii : character.toNat < 128
  · have checked := forall_ascii (fun character =>
      (digitValue? character).all fun value => value < 16 ∧ character.toUpper = digit value)
      (by decide +kernel) ascii
    simpa [read] using checked
  · rw [digitValue?_of_not_ascii ascii] at read
    cases read

theorem ascii_of_mem_digits : ∀ character ∈ digits, character.toNat < 128 := by
  simp [digits]

theorem utf8Size_of_mem_digits {character : Char} (member : character ∈ digits) : character.utf8Size = 1 :=
  Char.utf8Size_eq_one_iff.mpr (Nat.le_of_lt_succ (ascii_of_mem_digits character member))

theorem mem_digits_iff (character : Char) : character ∈ digits ↔ (digitValue? character).isSome := by
  constructor
  · have read : ∀ character ∈ digits, (digitValue? character).isSome := by simp [digits, digitValue?]
    exact read character
  · intro read
    by_cases ascii : character.toNat < 128
    · exact forall_ascii (fun character => (digitValue? character).isSome → character ∈ digits)
        (by decide +kernel) ascii read
    · simp [digitValue?_of_not_ascii ascii] at read

/-- Two values below sixteen are the halves of the byte they make. -/
theorem pair_join {high low : UInt8} (highSmall : high < 16) (lowSmall : low < 16) :
    pair (high * 16 + low) = [digit high, digit low] := by
  rw [UInt8.lt_iff_toNat_lt] at highSmall lowSmall
  have highHalf : (high * 16 + low) / 16 = high := by
    rw [← UInt8.toNat_inj]
    simp only [UInt8.toNat_div, UInt8.toNat_add, UInt8.toNat_mul, UInt8.reduceToNat] at highSmall lowSmall ⊢
    omega
  have lowHalf : (high * 16 + low) % 16 = low := by
    rw [← UInt8.toNat_inj]
    simp only [UInt8.toNat_mod, UInt8.toNat_add, UInt8.toNat_mul, UInt8.reduceToNat] at highSmall lowSmall ⊢
    omega
  rw [pair, highHalf, lowHalf]

/-- Characters are read as some bytes exactly if they spell them. -/
theorem decode?_eq_some_iff (characters : List Char) (bytes : List UInt8) :
    decode? characters = some bytes ↔ Spells characters bytes := by
  refine ⟨?_, fun spells => spells.read.1⟩
  intro read
  fun_induction decode? characters generalizing bytes with
  | case1 =>
    obtain rfl : [] = bytes := Option.some.inj read
    rfl
  | case2 high low rest highValue lowValue others readRest readLow readHigh ih =>
    obtain rfl : (highValue * 16 + lowValue) :: others = bytes := Option.some.inj read
    obtain ⟨highSmall, isHigh⟩ := digit_of_digitValue? readHigh
    obtain ⟨lowSmall, isLow⟩ := digit_of_digitValue? readLow
    have behind : rest.map Char.toUpper = encode others := ih others readRest
    have front : pair (highValue * 16 + lowValue) = [digit highValue, digit lowValue] := pair_join highSmall lowSmall
    rw [Spells, List.map_cons, List.map_cons, isHigh, isLow, behind]
    simp only [encode, List.flatMap_cons, front, List.cons_append, List.nil_append]
  | case3 | case4 => cases read

theorem decode?_isSome_iff (characters : List Char) :
    (decode? characters).isSome ↔ characters.length % 2 = 0 ∧ ∀ character ∈ characters, character ∈ digits := by
  fun_induction decode? characters with
  | case1 => simp
  | case2 high low rest highValue lowValue others readRest readLow readHigh ih =>
    rw [readRest] at ih
    have isHigh : high ∈ digits := by rw [mem_digits_iff, readHigh]; rfl
    have isLow : low ∈ digits := by rw [mem_digits_iff, readLow]; rfl
    have even : (high :: low :: rest).length % 2 = rest.length % 2 := Nat.add_mod_right rest.length 2
    rw [even, List.forall_mem_cons, List.forall_mem_cons]
    simpa [isHigh, isLow] using ih
  | case3 high low rest unread ih =>
    have even : (high :: low :: rest).length % 2 = rest.length % 2 := Nat.add_mod_right rest.length 2
    simp only [Option.isSome_none, Bool.false_eq_true, false_iff, even, List.forall_mem_cons, mem_digits_iff]
    rintro ⟨pairs, isHigh, isLow, others⟩
    obtain ⟨highValue, readHigh⟩ := Option.isSome_iff_exists.mp isHigh
    obtain ⟨lowValue, readLow⟩ := Option.isSome_iff_exists.mp isLow
    obtain ⟨bytes, readRest⟩ := Option.isSome_iff_exists.mp (ih.mpr ⟨pairs, by simpa [mem_digits_iff] using others⟩)
    exact unread highValue lowValue bytes readHigh readLow readRest
  | case4 => simp

end NodeBus.HexPairs
