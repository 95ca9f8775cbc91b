import Mathlib
import NodeBus.Header

/-!
# Sealed bodies

A body is sealed when it ends in the checksum of everything before it. The receiver never splits a body
that way: it runs the short checksum over the whole and looks for the remainder zero, and compares the
last two bytes as one word for the long one. `Variant.passes_iff_sealed` shows that both ask the same
question. The header bytes that a receiver tells apart stand for one header each
(`Header.ofByte?_eq_some_iff`).
-/
namespace NodeBus

namespace Checksum

theorem shift8_eq_zero_iff (register : BitVec 8) : shift8 register = 0#8 ↔ register = 0#8 := by
  revert register
  decide

/-- Shifting loses nothing: only the zero register ends at zero. -/
theorem repeat_shift8_eq_zero_iff (count : Nat) (register : BitVec 8) :
    Nat.repeat shift8 count register = 0#8 ↔ register = 0#8 := by
  induction count with
  | zero => rfl
  | succ count ih =>
    change shift8 (Nat.repeat shift8 count register) = 0#8 ↔ register = 0#8
    rw [shift8_eq_zero_iff, ih]

theorem crc8_concat (body : List UInt8) (last : UInt8) :
    crc8 (body ++ [last]) = ⟨absorb8 (crc8 body).toBitVec last⟩ := by
  simp [crc8, List.foldl_append]

theorem crc8_concat_eq_zero_iff (body : List UInt8) (last : UInt8) :
    crc8 (body ++ [last]) = 0 ↔ last = crc8 body := by
  rw [crc8_concat, ← UInt8.toBitVec_inj, ← UInt8.toBitVec_inj]
  change Nat.repeat shift8 8 ((crc8 body).toBitVec ^^^ last.toBitVec) = 0#8 ↔ _
  rw [repeat_shift8_eq_zero_iff, BitVec.xor_eq_zero_iff]
  exact eq_comm

/-- The remainder over a whole body is zero exactly when its last byte is the checksum of the rest. -/
theorem crc8Ok_iff (body : List UInt8) :
    crc8Ok body = true ↔ ∃ front, body = front ++ [crc8 front] := by
  rcases List.eq_nil_or_concat body with rfl | ⟨front, last, rfl⟩
  · simp [crc8Ok]
  · rw [List.concat_eq_append]
    have split : crc8Ok (front ++ [last]) = true ↔ last = crc8 front := by
      simp [crc8Ok, crc8_concat_eq_zero_iff]
    rw [split]
    constructor
    · rintro rfl
      exact ⟨front, rfl⟩
    · rintro ⟨other, same⟩
      obtain ⟨rfl, lastSame⟩ := List.append_inj' same rfl
      simpa using lastSame

theorem word_toNat (low high : UInt8) :
    (low.toUInt16 ||| (high.toUInt16 <<< 8)).toNat = low.toNat + 256 * high.toNat := by
  have lowBound := low.toNat_lt
  have highBound := high.toNat_lt
  have shifted : (high.toUInt16 <<< 8).toNat = high.toNat <<< 8 := by
    simp only [UInt16.toNat_shiftLeft, UInt8.toNat_toUInt16, Nat.shiftLeft_eq]
    simp
    omega
  rw [UInt16.toNat_or, shifted, UInt8.toNat_toUInt16, Nat.or_comm,
    ← Nat.shiftLeft_add_eq_or_of_lt (by omega), Nat.shiftLeft_eq]
  omega

/-- Two bytes, low byte first, make the word they are taken from and no other. -/
theorem word_eq_iff (word : UInt16) (low high : UInt8) :
    word = low.toUInt16 ||| (high.toUInt16 <<< 8) ↔
      low = word.toUInt8 ∧ high = (word >>> 8).toUInt8 := by
  have wordBound := word.toNat_lt
  have lowBound := low.toNat_lt
  have highBound := high.toNat_lt
  have lowByte : word.toUInt8.toNat = word.toNat % 256 := by simp
  have highByte : (word >>> 8).toUInt8.toNat = word.toNat / 256 := by
    simp [Nat.shiftRight_eq_div_pow]
    omega
  rw [← UInt16.toNat_inj, word_toNat, ← UInt8.toNat_inj, ← UInt8.toNat_inj, lowByte, highByte]
  omega

theorem crc16Ok_append (front : List UInt8) (low high : UInt8) :
    crc16Ok (front ++ [low, high]) = true ↔
      low = (crc16 front).toUInt8 ∧ high = (crc16 front >>> 8).toUInt8 := by
  have behind : (front ++ [low, high]).length - 2 = front.length := by simp
  simp only [crc16Ok, behind, List.drop_left, List.take_left, beq_iff_eq]
  exact word_eq_iff _ low high

/-- The last two bytes are compared as one word: both must be those of the checksum of the rest. -/
theorem crc16Ok_iff (body : List UInt8) :
    crc16Ok body = true ↔
      ∃ front, body = front ++ [(crc16 front).toUInt8, (crc16 front >>> 8).toUInt8] := by
  constructor
  · intro accepted
    rcases pair : body.drop (body.length - 2) with _ | ⟨low, _ | ⟨high, _ | ⟨_, _⟩⟩⟩
    · simp [crc16Ok, pair] at accepted
    · simp [crc16Ok, pair] at accepted
    · have joined := List.take_append_drop (body.length - 2) body
      rw [pair] at joined
      rw [← joined, crc16Ok_append] at accepted
      obtain ⟨lowSame, highSame⟩ := accepted
      exact ⟨body.take (body.length - 2), by rw [← lowSame, ← highSame, joined]⟩
    · simp [crc16Ok, pair] at accepted
  · rintro ⟨front, rfl⟩
    rw [crc16Ok_append]
    exact ⟨rfl, rfl⟩

end Checksum

namespace Variant

/-- The body ends in the checksum of everything before it. -/
def Sealed (variant : Variant) (body : List UInt8) : Prop :=
  ∃ front, body = front ++ variant.checkBytes front

@[simp] theorem length_checkBytes (variant : Variant) (body : List UInt8) :
    (variant.checkBytes body).length = variant.length := by
  cases variant <;> rfl

theorem length_pos (variant : Variant) : 0 < variant.length := by
  cases variant <;> decide

theorem length_le_two (variant : Variant) : variant.length ≤ 2 := by
  cases variant <;> decide

/-- The receiver's test of a body accepts exactly the sealed ones. -/
theorem passes_iff_sealed (variant : Variant) (body : List UInt8) :
    variant.passes body = true ↔ variant.Sealed body := by
  cases variant with
  | crc8 => exact Checksum.crc8Ok_iff body
  | crc16 => exact Checksum.crc16Ok_iff body

end Variant

namespace Header

@[simp] theorem ofByte?_toByte (header : Header) : ofByte? header.toByte = some header := by
  cases header with
  | command variant | interrupt variant | ack variant | nak variant => cases variant <;> rfl

/-- A byte stands for a header exactly when it is the byte that header is sent as. -/
theorem ofByte?_eq_some_iff (byte : UInt8) (header : Header) :
    ofByte? byte = some header ↔ byte = header.toByte := by
  constructor
  · intro known
    unfold ofByte? at known
    split at known <;> cases known <;> rfl
  · rintro rfl
    exact ofByte?_toByte header

theorem nak_toByte_ne_ack (variant : Variant) : (nak variant).toByte ≠ (ack variant).toByte := by
  cases variant <;> decide

end Header

end NodeBus
