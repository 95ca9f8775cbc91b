import NodeBus.Proofs.Formats

/-!
# Numbers of limited width

The reader takes exactly the numerals of its width, and the writer writes the shortest of them
(`readNumber_of_numeral`, `Numeral.eq_writeNumber`).
-/
namespace NodeBus

/-- How many numbers a width has room for. -/
def Codec.Width.count (width : Codec.Width) : Nat := 128 ^ width.following * (width.lastMax + 1)

namespace Format

theorem numeral_single {width : Codec.Width} (style : Style) {last : UInt8} (ended : last.toNat < 128)
    (inRange : width.following = 0 → last.toNat ≤ width.lastMax) :
    Numeral width style last.toNat [] last where
  digits := by simp [Nat.mod_eq_of_lt ended]
  continued := by simp
  ended
  room := Nat.zero_le _
  inRange full := inRange full.symm
  short := by simp

/-- One more group in front. -/
theorem Numeral.cons {following lastMax value : Nat} {style : Style} {front : List UInt8} {last : UInt8}
    (numeral : Numeral ⟨following, lastMax⟩ style value front last) {byte : UInt8}
    (continued : 128 ≤ byte.toNat) (short : style = .shortest → last ≠ 0) :
    Numeral ⟨following + 1, lastMax⟩ style (byte.toNat - 128 + 128 * value) (byte :: front) last where
  digits := by
    have low : byte.toNat % 128 = byte.toNat - 128 := by
      have := byte.toNat_lt
      omega
    rw [List.cons_append, List.map_cons, Nat.ofDigits_cons, low, ← numeral.digits]
  continued := List.forall_mem_cons.mpr ⟨continued, numeral.continued⟩
  ended := numeral.ended
  room := Nat.succ_le_succ numeral.room
  inRange full := numeral.inRange (Nat.succ_inj.mp full)
  short shortest _ := short shortest

/-- The groups behind the first. -/
theorem Numeral.tail {following lastMax value : Nat} {style : Style} {front : List UInt8} {last byte : UInt8}
    (numeral : Numeral ⟨following, lastMax⟩ style value (byte :: front) last) :
    ∃ before high, following = before + 1 ∧ value = byte.toNat - 128 + 128 * high ∧ 128 ≤ byte.toNat ∧
      Numeral ⟨before, lastMax⟩ style high front last ∧ (style = .shortest → last ≠ 0) := by
  obtain ⟨digits, continued, ended, room, inRange, short⟩ := numeral
  obtain ⟨before, rfl⟩ := Nat.exists_eq_add_one_of_ne_zero (Nat.ne_of_gt (Nat.lt_of_lt_of_le
    (Nat.succ_pos front.length) room))
  obtain ⟨first, others⟩ := List.forall_mem_cons.mp continued
  refine ⟨before, _, rfl, ?_, first, ⟨rfl, others, ended, Nat.le_of_succ_le_succ room, ?_, ?_⟩, ?_⟩
  · have low : byte.toNat % 128 = byte.toNat - 128 := by
      have := byte.toNat_lt
      omega
    rw [digits, List.cons_append, List.map_cons, Nat.ofDigits_cons, low]
  · exact fun full => inRange (congrArg (· + 1) full)
  · exact fun shortest _ => short shortest (List.cons_ne_nil _ _)
  · exact fun shortest => short shortest (List.cons_ne_nil _ _)

/-- A number of one group is that group. -/
theorem Numeral.eq_last {width : Codec.Width} {style : Style} {value : Nat} {last : UInt8}
    (numeral : Numeral width style value [] last) : value = last.toNat := by
  simpa [Nat.mod_eq_of_lt numeral.ended] using numeral.digits

/-- Only a last group of zero can belong to the number zero. -/
theorem Numeral.pos {width : Codec.Width} {style : Style} {value : Nat} {front : List UInt8} {last : UInt8}
    (numeral : Numeral width style value front last) (last_ne : last ≠ 0) : 0 < value := by
  have lastPositive : 0 < last.toNat % 128 := by
    have := numeral.ended
    have : last.toNat ≠ 0 := fun zero => last_ne (UInt8.toNat_inj.mp zero)
    omega
  rw [numeral.digits, List.map_append, List.map_singleton, Nat.ofDigits_append, Nat.ofDigits_singleton]
  exact Nat.add_pos_right _ (Nat.mul_pos (by positivity) lastPositive)

/-- The shortest numeral of a number other than zero does not end in a zero group. -/
theorem Numeral.last_ne {width : Codec.Width} {value : Nat} {front : List UInt8} {last : UInt8}
    (numeral : Numeral width .shortest value front last) (value_ne : value ≠ 0) : last ≠ 0 := by
  cases front with
  | nil =>
    rintro rfl
    exact value_ne numeral.eq_last
  | cons byte front => exact numeral.short rfl (List.cons_ne_nil _ _)

theorem Numeral.lt_count {following lastMax value : Nat} {style : Style} {front : List UInt8} {last : UInt8}
    (numeral : Numeral ⟨following, lastMax⟩ style value front last) :
    value < Codec.Width.count ⟨following, lastMax⟩ := by
  induction front generalizing following value with
  | nil =>
    rw [numeral.eq_last, Codec.Width.count]
    cases following with
    | zero => simpa using Nat.lt_succ_of_le (numeral.inRange rfl)
    | succ before =>
      calc last.toNat < 128 := numeral.ended
        _ ≤ 128 ^ (before + 1) := Nat.le_self_pow (Nat.succ_ne_zero _) _
        _ ≤ 128 ^ (before + 1) * (lastMax + 1) := Nat.le_mul_of_pos_right _ (Nat.succ_pos _)
  | cons byte front ih =>
    obtain ⟨before, high, rfl, rfl, -, later, -⟩ := numeral.tail
    have below := ih later
    have byteBelow := byte.toNat_lt
    simp only [Codec.Width.count, pow_succ] at below ⊢
    rw [Nat.mul_comm (128 ^ before) 128, Nat.mul_assoc]
    omega

/-- A number that is not written in full has a faulty end. -/
theorem FaultyNumber.cons {following lastMax : Nat} {fault : Fault} {input : List UInt8}
    (faulty : FaultyNumber ⟨following, lastMax⟩ fault input) {byte : UInt8} (continued : 128 ≤ byte.toNat) :
    FaultyNumber ⟨following + 1, lastMax⟩ fault (byte :: input) := by
  cases faulty with
  | truncated _ others few =>
    exact .truncated _ (List.forall_mem_cons.mpr ⟨continued, others⟩) (Nat.succ_le_succ few)
  | overlong front rest others many =>
    exact .overlong (byte :: front) rest (List.forall_mem_cons.mpr ⟨continued, others⟩) (congrArg (· + 1) many)
  | outOfRange front rest last others full ended tooGreat =>
    exact .outOfRange (byte :: front) rest last (List.forall_mem_cons.mpr ⟨continued, others⟩)
      (congrArg (· + 1) full) ended tooGreat

variable {following lastMax value : Nat}

theorem readNumber_of_numeral {style : Style} {front : List UInt8} {last : UInt8}
    (numeral : Numeral ⟨following, lastMax⟩ style value front last) (rest : List UInt8) :
    Codec.readNumber lastMax following (front ++ [last] ++ rest) = some (value, rest) := by
  induction front generalizing following value with
  | nil =>
    rw [numeral.eq_last]
    cases following with
    | zero => simpa [Codec.readNumber] using numeral.inRange rfl
    | succ before => simp [Codec.readNumber, numeral.ended]
  | cons byte front ih =>
    obtain ⟨before, high, rfl, rfl, continued, later, -⟩ := numeral.tail
    rw [List.cons_append, List.cons_append, Codec.readNumber, if_neg (Nat.not_lt.mpr continued), ih later]

theorem number_total (lastMax following : Nat) : (number ⟨following, lastMax⟩).Total := by
  intro input
  induction following generalizing input with
  | zero =>
    cases input with
    | nil => exact .inr ⟨_, .truncated [] (by simp) (Nat.zero_le _)⟩
    | cons byte rest =>
      by_cases ended : byte.toNat < 128
      · by_cases inRange : byte.toNat ≤ lastMax
        · exact .inl ⟨_, [byte], rest, rfl, [], byte, rfl, numeral_single _ ended fun _ => inRange⟩
        · exact .inr ⟨_, .outOfRange [] rest byte (by simp) rfl ended (Nat.not_le.mp inRange)⟩
      · exact .inr ⟨_, .overlong [byte] rest (by simpa using ended) rfl⟩
  | succ following ih =>
    cases input with
    | nil => exact .inr ⟨_, .truncated [] (by simp) (Nat.zero_le _)⟩
    | cons byte rest =>
      by_cases ended : byte.toNat < 128
      · exact .inl ⟨_, [byte], rest, rfl, [], byte, rfl, numeral_single _ ended nofun⟩
      · have continued := Nat.not_lt.mp ended
        rcases ih rest with ⟨high, _, behind, rfl, front, last, rfl, numeral⟩ | ⟨fault, faulty⟩
        · exact .inl ⟨_, byte :: (front ++ [last]), behind, rfl, byte :: front, last, rfl,
            numeral.cons continued nofun⟩
        · exact .inr ⟨fault, faulty.cons continued⟩

theorem readNumber_of_faulty (small : lastMax < 128) {fault : Fault} {input : List UInt8}
    (faulty : FaultyNumber ⟨following, lastMax⟩ fault input) :
    Codec.readNumber lastMax following input = none := by
  induction following generalizing input with
  | zero =>
    cases faulty with
    | truncated input _ few => rw [List.eq_nil_of_length_eq_zero (Nat.le_zero.mp few), Codec.readNumber]
    | overlong front rest continued many =>
      obtain ⟨byte, rfl⟩ := List.length_eq_one_iff.mp many
      have := continued byte (List.mem_singleton_self byte)
      simp only [List.singleton_append, Codec.readNumber]
      rw [if_neg (by omega)]
    | outOfRange front rest last _ full _ tooGreat =>
      rw [List.eq_nil_of_length_eq_zero full, List.nil_append, Codec.readNumber, if_neg (Nat.not_le.mpr tooGreat)]
  | succ following ih =>
    have behind : ∀ {byte : UInt8} {rest : List UInt8}, 128 ≤ byte.toNat →
        FaultyNumber ⟨following, lastMax⟩ fault rest →
        Codec.readNumber lastMax (following + 1) (byte :: rest) = none := by
      intro byte rest continued later
      rw [Codec.readNumber, if_neg (Nat.not_lt.mpr continued), ih later]
    cases faulty with
    | truncated input continued few =>
      cases input with
      | nil => rw [Codec.readNumber]
      | cons byte rest =>
        obtain ⟨first, others⟩ := List.forall_mem_cons.mp continued
        exact behind first (.truncated rest others (Nat.le_of_succ_le_succ few))
    | overlong front rest continued many =>
      cases front with
      | nil => cases many
      | cons byte front =>
        obtain ⟨first, others⟩ := List.forall_mem_cons.mp continued
        exact behind first (.overlong front rest others (Nat.succ_inj.mp many))
    | outOfRange front rest last continued full ended tooGreat =>
      cases front with
      | nil => cases full
      | cons byte front =>
        obtain ⟨first, others⟩ := List.forall_mem_cons.mp continued
        exact behind first (.outOfRange front rest last others (Nat.succ_inj.mp full) ended tooGreat)

theorem toNat_toUInt8 {value : Nat} (small : value < 256) : value.toUInt8.toNat = value := by
  rw [Nat.toUInt8_eq, UInt8.toNat_ofNat', Nat.mod_eq_of_lt small]

/-- A small number written as one group. -/
theorem numeral_of_small {width : Codec.Width} (style : Style) (small : value < 128)
    (inRange : width.following = 0 → value ≤ width.lastMax) :
    Numeral width style value [] value.toUInt8 := by
  have same := toNat_toUInt8 (Nat.lt_trans small (by decide))
  have numeral : Numeral width style value.toUInt8.toNat [] value.toUInt8 :=
    numeral_single style (by rwa [same]) (by rwa [same])
  rwa [same] at numeral

/-- The group in front of the others. -/
theorem toNat_low_group (value : Nat) : (value % 128 + 128).toUInt8.toNat = value % 128 + 128 :=
  toNat_toUInt8 (by omega)

/-- What is written is a shortest numeral, if the width has room for the number. -/
theorem writeNumber_numeral (small : lastMax < 128) {value following : Nat}
    (fits : value < Codec.Width.count ⟨following, lastMax⟩) :
    ∃ front last, Codec.writeNumber following value = front ++ [last] ∧
      Numeral ⟨following, lastMax⟩ .shortest value front last := by
  induction following generalizing value with
  | zero =>
    have inRange : value ≤ lastMax := by simpa [Codec.Width.count, Nat.lt_succ_iff] using fits
    exact ⟨[], _, rfl, numeral_of_small _ (Nat.lt_of_le_of_lt inRange small) fun _ => inRange⟩
  | succ following ih =>
    rw [Codec.writeNumber]
    by_cases low : value < 128
    · exact ⟨[], _, if_pos low, numeral_of_small _ low nofun⟩
    · have highFits : value / 128 < Codec.Width.count ⟨following, lastMax⟩ := by
        rw [Nat.div_lt_iff_lt_mul (by decide)]
        calc value < 128 ^ (following + 1) * (lastMax + 1) := fits
          _ = 128 ^ following * (lastMax + 1) * 128 := by ring
      obtain ⟨front, last, written, numeral⟩ := ih highFits
      have continued : 128 ≤ (value % 128 + 128).toUInt8.toNat := by
        rw [toNat_low_group]
        omega
      have numeral := numeral.cons continued fun _ => numeral.last_ne (by omega)
      rw [toNat_low_group, Nat.add_sub_cancel, Nat.mod_add_div] at numeral
      exact ⟨_, last, by rw [if_neg low, written]; rfl, numeral⟩

/-- Without superfluous groups a number has one spelling, the written one. -/
theorem Numeral.eq_writeNumber {front : List UInt8} {last : UInt8}
    (numeral : Numeral ⟨following, lastMax⟩ .shortest value front last) :
    front ++ [last] = Codec.writeNumber following value := by
  induction front generalizing following value with
  | nil =>
    have same := numeral.eq_last
    have low : value < 128 := same ▸ numeral.ended
    have byte : value.toUInt8 = last := by rw [same]; exact UInt8.ofNat_toNat
    cases following with
    | zero => rw [Codec.writeNumber, byte, List.nil_append]
    | succ before => rw [Codec.writeNumber, if_pos low, byte, List.nil_append]
  | cons byte front ih =>
    obtain ⟨before, high, rfl, rfl, continued, later, short⟩ := numeral.tail
    have positive := later.pos (short rfl)
    have byteBelow := byte.toNat_lt
    have group : ((byte.toNat - 128 + 128 * high) % 128 + 128).toUInt8 = byte := by
      rw [show (byte.toNat - 128 + 128 * high) % 128 + 128 = byte.toNat by omega]
      exact UInt8.ofNat_toNat
    have behind : (byte.toNat - 128 + 128 * high) / 128 = high := by omega
    rw [List.cons_append, Codec.writeNumber, if_neg (by omega), group, behind, ih later]

/-- No spelling of a number is shorter than the written one. -/
theorem Numeral.length_writeNumber_le {style : Style} {front : List UInt8} {last : UInt8}
    (numeral : Numeral ⟨following, lastMax⟩ style value front last) :
    (Codec.writeNumber following value).length ≤ (front ++ [last]).length := by
  induction front generalizing following value with
  | nil =>
    have low : value < 128 := numeral.eq_last ▸ numeral.ended
    cases following with
    | zero => rw [Codec.writeNumber]; rfl
    | succ before => rw [Codec.writeNumber, if_pos low]; rfl
  | cons byte front ih =>
    obtain ⟨before, high, rfl, rfl, continued, later, -⟩ := numeral.tail
    have byteBelow := byte.toNat_lt
    have behind : (byte.toNat - 128 + 128 * high) / 128 = high := by omega
    rw [Codec.writeNumber, behind]
    split
    · simp
    · simpa using ih later

theorem length_writeNumber (following value : Nat) :
    (Codec.writeNumber following value).length ≤ following + 1 := by
  induction following generalizing value with
  | zero => rw [Codec.writeNumber]; rfl
  | succ following ih =>
    rw [Codec.writeNumber]
    split
    · exact Nat.succ_le_succ (Nat.zero_le _)
    · exact Nat.succ_le_succ (ih _)

end Format

namespace Codec

open Format

variable {width : Width}

theorem number_follows (small : width.lastMax < 128) : (number width).Follows (.number width) where
  read :=
    { reads := by
        rintro value _ ⟨front, last, rfl, numeral⟩ rest
        exact readNumber_of_numeral numeral rest
      refuses := readNumber_of_faulty small
      total := number_total width.lastMax width.following }
  written :=
    { shortest := by
        rintro value _ ⟨front, last, rfl, numeral⟩
        exact numeral.eq_writeNumber
      least := by
        rintro value _ ⟨front, last, rfl, numeral⟩
        exact numeral.length_writeNumber_le }

theorem number_spells (small : width.lastMax < 128) {value : Nat} (fits : value < width.count) :
    (Format.number width).Spells .shortest value ((number width).encode value) :=
  writeNumber_numeral small fits

theorem size_follows : size.Follows .size := number_follows (by decide)

theorem tag_follows : tag.Follows .tag := number_follows (by decide)

theorem size_length (count : Nat) : (size.encode count).length ≤ 10 := length_writeNumber _ _

theorem tag_length (kind : Nat) : (tag.encode kind).length ≤ 5 := length_writeNumber _ _

end Codec

end NodeBus
