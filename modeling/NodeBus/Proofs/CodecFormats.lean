import NodeBus.Proofs.Numerals

/-!
# Codecs that follow a format

Each way to put codecs together has its way to put formats together: if the parts follow their formats, so does
the whole. The same goes for writing every value, for a bound on the bytes it takes, and for all three
(`Codec.Meets`).
-/
namespace NodeBus.Codec

open Format

variable {α β : Type} {codec : Codec α} {format : Format α}

@[simp] theorem byte_decode (value : UInt8) (rest : List UInt8) : byte.decode (value :: rest) = some (value, rest) := rfl

theorem byte_follows : byte.Follows .byte where
  read :=
    { reads := by
        rintro value _ rfl rest
        rfl
      refuses := by
        rintro fault _ ⟨-, rfl⟩
        rfl
      total := by
        intro input
        cases input with
        | nil => exact .inr ⟨_, rfl, rfl⟩
        | cons value rest => exact .inl ⟨value, [value], rest, rfl, rfl⟩ }
  written :=
    { shortest := id
      least := by
        rintro value _ rfl
        exact Nat.le_refl _ }

theorem byte_writes : byte.Writes .byte := fun _ => rfl

/-! ### Values of another type -/

theorem readBy_map (read : format.ReadBy codec.decode) (make : α → β) :
    (format.map make).ReadBy (codec.decodeAs make) where
  reads := by
    rintro _ bytes ⟨value, rfl, spelled⟩ rest
    rw [Codec.decodeAs, read.reads spelled]
  refuses := by
    intro fault input faulty
    rw [Codec.decodeAs, read.refuses faulty]
  total := by
    intro input
    rcases read.total input with ⟨value, bytes, rest, split, spelled⟩ | faulty
    · exact .inl ⟨make value, bytes, rest, split, value, rfl, spelled⟩
    · exact .inr faulty

@[simp] theorem map_encode (make : α → β) (back : β → α) (value : β) :
    (codec.map make back).encode value = codec.encode (back value) := rfl

/-- The other type needs to tell apart only values that can be spelled. -/
theorem Follows.map (follows : codec.Follows format) {make : α → β} {back : β → α}
    (same : ∀ {value bytes}, format.Spells .free value bytes → back (make value) = value) :
    (codec.map make back).Follows (format.map make) where
  read := readBy_map follows.read make
  written :=
    { shortest := by
        rintro _ bytes ⟨value, rfl, spelled⟩
        rw [map_encode, same (format.relax spelled)]
        exact follows.written.shortest spelled
      least := by
        rintro _ bytes ⟨value, rfl, spelled⟩
        rw [map_encode, same spelled]
        exact follows.written.least spelled }

theorem Writes.map (writes : codec.Writes format) {make : α → β} {back : β → α}
    (same : ∀ value, make (back value) = value) : (codec.map make back).Writes (format.map make) :=
  fun value => ⟨back value, same value, writes (back value)⟩

theorem word16_follows : word16.Follows .word16 :=
  (number_follows (by decide)).map fun ⟨_, _, _, numeral⟩ =>
    UInt16.toNat_ofNat_of_lt (numeral.lt_count)

theorem word32_follows : word32.Follows .word32 :=
  (number_follows (by decide)).map fun ⟨_, _, _, numeral⟩ =>
    UInt32.toNat_ofNat_of_lt (numeral.lt_count)

theorem word16_writes : word16.Writes .word16 := fun value =>
  ⟨value.toNat, UInt16.ofNat_toNat, number_spells (by decide) value.toNat_lt⟩

theorem word32_writes : word32.Writes .word32 := fun value =>
  ⟨value.toNat, UInt32.ofNat_toNat, number_spells (by decide) value.toNat_lt⟩

/-! ### One thing behind another -/

variable {other : Codec β} {otherFormat : Format β}

/-- Where the first codec has found or written this head, the codec goes on with the format. -/
structure FollowsBehind (codec : Codec β) (first : Codec α) (head : α) (format : Format β) : Prop where
  read : ∃ decode, format.ReadBy decode ∧
    ∀ {input rest}, first.decode input = some (head, rest) → codec.decode input = decode rest
  shortest : ∀ {value bytes}, format.Spells .shortest value bytes →
    codec.encode value = first.encode head ++ bytes
  least : ∀ {value bytes}, format.Spells .free value bytes →
    (codec.encode value).length ≤ (first.encode head).length + bytes.length

/-- With this head the codec refuses the input. -/
theorem FollowsBehind.refused {head : α} {reason : Fault}
    (decoded : ∀ {input rest}, codec.decode input = some (head, rest) → other.decode input = none) :
    other.FollowsBehind codec head (.refused reason) where
  read :=
    ⟨fun _ => none,
      { reads := False.elim
        refuses := fun _ => rfl
        total := fun _ => .inr ⟨reason, rfl⟩ },
      decoded⟩
  shortest := False.elim
  least := False.elim

/-- Nothing follows the head. -/
theorem FollowsBehind.just {head : α} {value : β}
    (decoded : ∀ {input rest}, codec.decode input = some (head, rest) →
      other.decode input = some (value, rest))
    (encoded : other.encode value = codec.encode head) : other.FollowsBehind codec head (.just value) where
  read :=
    ⟨fun rest => some (value, rest),
      { reads := by
          rintro _ _ ⟨rfl, rfl⟩ rest
          rfl
        refuses := False.elim
        total := fun input => .inl ⟨value, [], input, rfl, rfl, rfl⟩ },
      decoded⟩
  shortest := by
    rintro _ _ ⟨rfl, rfl⟩
    rw [encoded, List.append_nil]
  least := by
    rintro _ _ ⟨rfl, rfl⟩
    rw [encoded]
    exact Nat.le_refl _

/-- What follows the head has a codec of its own. -/
theorem FollowsBehind.map {γ : Type} {head : α} {whole : Codec γ} {make : β → γ}
    (follows : other.Follows otherFormat)
    (decoded : ∀ {input rest}, codec.decode input = some (head, rest) →
      whole.decode input = other.decodeAs make rest)
    (encoded : ∀ value, whole.encode (make value) = codec.encode head ++ other.encode value) :
    whole.FollowsBehind codec head (otherFormat.map make) where
  read := ⟨_, readBy_map follows.read make, decoded⟩
  shortest := by
    rintro _ bytes ⟨value, rfl, spelled⟩
    rw [encoded, follows.written.shortest spelled]
  least := by
    rintro _ bytes ⟨value, rfl, spelled⟩
    rw [encoded, List.length_append]
    exact Nat.add_le_add_left (follows.written.least spelled) _

/-- A codec that goes on in the right way behind every head follows the format. -/
theorem Follows.andThen {next : α → Format β} (follows : codec.Follows format)
    (refuses : ∀ {input}, codec.decode input = none → other.decode input = none)
    (behind : ∀ head, other.FollowsBehind codec head (next head)) : other.Follows (format.andThen next) where
  read :=
    { reads := by
        rintro value _ ⟨head, front, back, rfl, headSpelled, spelled⟩ rest
        obtain ⟨decode, read, decoded⟩ := (behind head).read
        rw [List.append_assoc, decoded (follows.read.reads headSpelled _), read.reads spelled]
      refuses := by
        rintro fault _ (faulty | ⟨head, front, rest, rfl, headSpelled, faulty⟩)
        · exact refuses (follows.read.refuses faulty)
        · obtain ⟨decode, read, decoded⟩ := (behind head).read
          rw [decoded (follows.read.reads headSpelled rest), read.refuses faulty]
      total := by
        intro input
        rcases follows.read.total input with ⟨head, front, back, rfl, headSpelled⟩ | ⟨fault, faulty⟩
        · obtain ⟨decode, read, -⟩ := (behind head).read
          rcases read.total back with ⟨value, bytes, rest, rfl, spelled⟩ | ⟨fault, faulty⟩
          · exact .inl ⟨value, front ++ bytes, rest, (List.append_assoc ..).symm,
              head, front, bytes, rfl, headSpelled, spelled⟩
          · exact .inr ⟨fault, .inr ⟨head, front, back, rfl, headSpelled, faulty⟩⟩
        · exact .inr ⟨fault, .inl faulty⟩ }
  written :=
    { shortest := by
        rintro value _ ⟨head, front, back, rfl, headSpelled, spelled⟩
        rw [(behind head).shortest spelled, follows.written.shortest headSpelled]
      least := by
        rintro value _ ⟨head, front, back, rfl, headSpelled, spelled⟩
        rw [List.length_append]
        exact ((behind head).least spelled).trans
          (Nat.add_le_add_right (follows.written.least headSpelled) _) }

@[simp] theorem pair_encode (value : α × β) :
    (codec.pair other).encode value = codec.encode value.1 ++ other.encode value.2 := rfl

theorem Follows.pair (first : codec.Follows format) (second : other.Follows otherFormat) :
    (codec.pair other).Follows (format.pair otherFormat) := by
  apply first.andThen
  · intro input refused
    simp only [Codec.pair, refused]
  · intro left
    apply FollowsBehind.map second
    · intro input rest decoded
      simp only [Codec.pair, decoded, decodeAs]
    · exact fun right => rfl

theorem Writes.pair (first : codec.Writes format) (second : other.Writes otherFormat) :
    (codec.pair other).Writes (format.pair otherFormat) :=
  fun value => ⟨value.1, _, _, rfl, first value.1, value.2, rfl, second value.2⟩

/-- The codec refuses what has no number of a kind in front, and reads and writes the fields of each kind. -/
theorem follows_kinds {fields : Nat → Option (Format α)}
    (untagged : ∀ {input}, tag.decode input = none → codec.decode input = none)
    (unknown : ∀ {input kind rest}, tag.decode input = some (kind, rest) → fields kind = none →
      codec.decode input = none)
    (known : ∀ {kind format}, fields kind = some format → codec.FollowsBehind tag kind format) :
    codec.Follows (.kinds fields) := by
  apply tag_follows.andThen untagged
  intro kind
  cases isKind : fields kind with
  | none => exact .refused fun tagged => unknown tagged isKind
  | some format => exact known isKind

/-- Every value is of some kind, and its fields can be written. -/
theorem writes_kinds {fields : Nat → Option (Format α)}
    (known : ∀ value, ∃ kind format bytes, kind < Width.word32.count ∧ fields kind = some format ∧
      format.Spells .shortest value bytes ∧ codec.encode value = tag.encode kind ++ bytes) :
    codec.Writes (.kinds fields) := by
  intro value
  obtain ⟨kind, format, bytes, fits, isKind, spelled, encoded⟩ := known value
  refine ⟨kind, _, bytes, encoded, number_spells (by decide) fits, ?_⟩
  simp only [isKind, Option.getD_some]
  exact spelled

variable {capacity : Nat}

/-- The codec refuses what has no length in front or too great a one, and goes on behind a length that fits. -/
theorem follows_limited {next : Nat → Format α}
    (unsized : ∀ {input}, size.decode input = none → codec.decode input = none)
    (above : ∀ {input count rest}, size.decode input = some (count, rest) → capacity < count →
      codec.decode input = none)
    (within : ∀ {count}, count ≤ capacity → codec.FollowsBehind size count (next count)) :
    codec.Follows (.limited capacity next) := by
  apply size_follows.andThen unsized
  intro count
  split
  · rename_i tooMany
    exact .refused fun decoded => above decoded tooMany
  · rename_i fits
    exact within (Nat.not_lt.mp fits)

theorem limited_spells {next : Nat → Format α} (room : capacity < Width.word64.count) {count : Nat}
    (fits : count ≤ capacity) {value : α} {bytes : List UInt8}
    (spelled : (next count).Spells .shortest value bytes) :
    (Format.limited capacity next).Spells .shortest value (size.encode count ++ bytes) := by
  refine ⟨count, _, bytes, rfl, number_spells (by decide) (Nat.lt_of_le_of_lt fits room), ?_⟩
  simp only [if_neg (Nat.not_lt.mpr fits)]
  exact spelled

/-! ### Lists -/

section Lists

variable {values : List α} {bytes : List UInt8}

theorem readMany_of_spellsAll (read : format.ReadBy codec.decode) (spelled : SpellsAll format .free values bytes)
    (rest : List UInt8) : readMany codec values.length (bytes ++ rest) = some (values, rest) := by
  induction spelled with
  | nil => rfl
  | cons value values front behind spelled later ih =>
    rw [List.length_cons, List.append_assoc, readMany]
    simp only [read.reads spelled, ih]

theorem readMany_of_faulty (read : format.ReadBy codec.decode) {fault : Fault} {count : Nat} {input : List UInt8}
    (faulty : FaultyAmong format fault count input) : readMany codec count input = none := by
  induction faulty with
  | here count input faulty => simp only [readMany, read.refuses faulty]
  | later count value front rest spelled faulty ih => simp only [readMany, read.reads spelled, ih]

theorem values_or_faulty (read : format.ReadBy codec.decode) (count : Nat) (input : List UInt8) :
    (∃ values bytes rest, input = bytes ++ rest ∧ values.length = count ∧ SpellsAll format .free values bytes) ∨
      ∃ fault, FaultyAmong format fault count input := by
  induction count generalizing input with
  | zero => exact .inl ⟨[], [], input, rfl, rfl, .nil⟩
  | succ count ih =>
    rcases read.total input with ⟨value, front, behind, rfl, spelled⟩ | ⟨fault, faulty⟩
    · rcases ih behind with ⟨values, bytes, rest, rfl, rfl, later⟩ | ⟨fault, faulty⟩
      · exact .inl ⟨value :: values, front ++ bytes, rest, (List.append_assoc ..).symm, rfl,
          .cons value values front bytes spelled later⟩
      · exact .inr ⟨fault, .later count value front behind spelled faulty⟩
    · exact .inr ⟨fault, .here count input faulty⟩

theorem flatMap_of_shortest (written : format.WrittenBy codec.encode)
    (spelled : SpellsAll format .shortest values bytes) : bytes = values.flatMap codec.encode := by
  induction spelled with
  | nil => rfl
  | cons value values front behind spelled later ih =>
    rw [List.flatMap_cons, ← ih, ← written.shortest spelled]

theorem length_flatMap_le (written : format.WrittenBy codec.encode)
    (spelled : SpellsAll format .free values bytes) : (values.flatMap codec.encode).length ≤ bytes.length := by
  induction spelled with
  | nil => exact Nat.le_refl _
  | cons value values front behind spelled later ih =>
    rw [List.flatMap_cons, List.length_append, List.length_append]
    exact Nat.add_le_add (written.least spelled) ih

theorem Writes.flatMap (writes : codec.Writes format) (values : List α) :
    SpellsAll format .shortest values (values.flatMap codec.encode) := by
  induction values with
  | nil => exact .nil
  | cons value values ih => exact .cons value values _ _ (writes value) ih

end Lists

@[simp] theorem bounded_encode (list : Bounded α capacity) :
    (bounded capacity codec).encode list = size.encode list.items.length ++ list.items.flatMap codec.encode := rfl

/-- Behind a length that fits, the codec goes on with the items. -/
theorem followsBehind_items (follows : codec.Follows format) {count : Nat} (fits : count ≤ capacity) :
    (bounded capacity codec).FollowsBehind size count (items capacity count format) where
  read := by
    refine ⟨fun input => (readMany codec count input).bind fun (values, rest) =>
      (Bounded.ofList? values).map fun list => (list, rest), ?_, ?_⟩
    · constructor
      case reads =>
        rintro ⟨values, room⟩ bytes ⟨rfl, spelled⟩ rest
        simp only [readMany_of_spellsAll follows.read spelled, Option.bind_some, Bounded.ofList?, dif_pos room,
          Option.map_some]
      case refuses =>
        intro fault input faulty
        simp only [readMany_of_faulty follows.read faulty, Option.bind_none]
      case total =>
        intro input
        rcases values_or_faulty follows.read count input with ⟨values, bytes, rest, split, rfl, all⟩ | faulty
        · exact .inl ⟨⟨values, fits⟩, bytes, rest, split, rfl, all⟩
        · exact .inr faulty
    · intro input rest decoded
      simp only [Codec.bounded, decoded, if_neg (Nat.not_lt.mpr fits)]
      cases readMany codec count rest <;> rfl
  shortest := by
    rintro list bytes ⟨rfl, spelled⟩
    rw [bounded_encode, flatMap_of_shortest follows.written spelled]
  least := by
    rintro list bytes ⟨rfl, spelled⟩
    rw [bounded_encode, List.length_append]
    exact Nat.add_le_add_left (length_flatMap_le follows.written spelled) _

theorem Follows.bounded (follows : codec.Follows format) :
    (bounded capacity codec).Follows (.bounded capacity format) := by
  apply follows_limited
  · intro input refused
    simp only [Codec.bounded, refused]
  · intro input count rest decoded above
    simp only [Codec.bounded, decoded, if_pos above]
  · exact fun fits => followsBehind_items follows fits

theorem Writes.bounded (writes : codec.Writes format) (room : capacity < Width.word64.count) :
    (bounded capacity codec).Writes (.bounded capacity format) := by
  intro list
  apply limited_spells room list.fits
  exact ⟨rfl, writes.flatMap list.items⟩

/-! ### Texts -/

theorem readMany_byte (count : Nat) (input : List UInt8) :
    readMany byte count input =
      if count ≤ input.length then some (input.take count, input.drop count) else none := by
  induction count generalizing input with
  | zero => simp [readMany]
  | succ count ih =>
    cases input with
    | nil => rfl
    | cons value rest =>
      have step : readMany byte (count + 1) (value :: rest) =
          (readMany byte count rest).map fun read => (value :: read.1, read.2) := by
        cases behind : readMany byte count rest <;> simp only [readMany, byte_decode, behind] <;> rfl
      simp only [step, ih, List.length_cons, Nat.add_le_add_iff_right]
      split <;> rfl

@[simp] theorem text_encode (held : BoundedText capacity) :
    (text capacity).encode held =
      size.encode held.text.utf8ByteSize ++ held.text.toByteArray.data.toList := rfl

/-- A text is made again from its bytes. -/
theorem fromUTF8?_toByteArray (text : String) : String.fromUTF8? text.toByteArray = some text := by
  simp only [String.fromUTF8?, dif_pos text.isValidUTF8]
  rfl

theorem fromUTF8?_eq_none {bytes : ByteArray} (invalid : ¬ bytes.IsValidUTF8) :
    String.fromUTF8? bytes = none := by
  simp only [String.fromUTF8?, dif_neg invalid]

theorem length_of_content {held : BoundedText capacity} {content : List UInt8}
    (same : held.text.toByteArray = ⟨content.toArray⟩) : content.length = held.text.utf8ByteSize := by
  rw [String.utf8ByteSize, same]
  rfl

theorem content_total {count : Nat} (fits : count ≤ capacity) : (content capacity count).Total := by
  intro input
  by_cases short : input.length < count
  · exact .inr ⟨_, .inl ⟨short, rfl⟩⟩
  have enough := Nat.not_lt.mp short
  by_cases valid : ByteArray.IsValidUTF8 ⟨(input.take count).toArray⟩
  · have length : (input.take count).length = count := List.length_take_of_le enough
    obtain ⟨text, same⟩ : ∃ text : String, text.toByteArray = ⟨(input.take count).toArray⟩ :=
      ⟨⟨_, valid⟩, rfl⟩
    have room : text.utf8ByteSize ≤ capacity := by
      rw [String.utf8ByteSize, same]
      exact length.trans_le fits
    exact .inl ⟨⟨text, room⟩, input.take count, input.drop count, (List.take_append_drop _ _).symm,
      length, same⟩
  · exact .inr ⟨_, .inr ⟨enough, valid, rfl⟩⟩

/-- Behind a length that fits, the codec goes on with the bytes of the text. -/
theorem followsBehind_content {count : Nat} (fits : count ≤ capacity) :
    (text capacity).FollowsBehind size count (content capacity count) where
  read := by
    refine ⟨fun input => (readMany byte count input).bind fun read =>
      (String.fromUTF8? ⟨read.1.toArray⟩).bind fun text =>
        (BoundedText.ofString? text).map fun held => (held, read.2), ?_, ?_⟩
    · constructor
      case reads =>
        rintro held bytes ⟨rfl, same⟩ rest
        simp only [readMany_byte, List.length_append, Nat.le_add_right, if_true, List.take_left, List.drop_left,
          Option.bind_some, ← same, fromUTF8?_toByteArray, BoundedText.ofString?, dif_pos held.fits,
          Option.map_some]
      case refuses =>
        rintro fault input (⟨short, -⟩ | ⟨enough, invalid, -⟩)
        · simp only [readMany_byte, if_neg (Nat.not_le.mpr short), Option.bind_none]
        · simp only [readMany_byte, if_pos enough, Option.bind_some, fromUTF8?_eq_none invalid, Option.bind_none]
      case total => exact content_total fits
    · intro input rest decoded
      simp only [Codec.text, decoded, if_neg (Nat.not_lt.mpr fits)]
      rcases readMany byte count rest with _ | ⟨bytes, behind⟩
      · rfl
      · simp only [Option.bind_some]
        cases String.fromUTF8? ⟨bytes.toArray⟩ <;> rfl
  shortest := by
    rintro held bytes ⟨rfl, same⟩
    rw [text_encode, length_of_content same, same]
  least := by
    rintro held bytes ⟨rfl, same⟩
    rw [text_encode, List.length_append, ← length_of_content same, same]

theorem text_follows : (text capacity).Follows (.text capacity) := by
  apply follows_limited
  · intro input refused
    simp only [Codec.text, refused]
  · intro input count rest decoded above
    simp only [Codec.text, decoded, if_pos above]
  · exact fun fits => followsBehind_content fits

theorem text_writes (room : capacity < Width.word64.count) : (text capacity).Writes (.text capacity) := by
  intro held
  apply limited_spells room held.fits
  exact ⟨rfl, rfl⟩

/-! ### The most bytes -/

theorem tagged_length (kind : Nat) {bytes : List UInt8} {limit : Nat} (fields : bytes.length ≤ limit) :
    (tag.encode kind ++ bytes).length ≤ 5 + limit := by
  rw [List.length_append]
  exact Nat.add_le_add (tag_length kind) fields

theorem byte_atMost : byte.AtMost 1 := fun _ => Nat.le_refl _

theorem word16_atMost : word16.AtMost 3 := fun _ => length_writeNumber _ _

theorem word32_atMost : word32.AtMost 5 := fun _ => length_writeNumber _ _

theorem AtMost.map {limit : Nat} (atMost : codec.AtMost limit) (make : α → β) (back : β → α) :
    (codec.map make back).AtMost limit := fun value => atMost (back value)

theorem AtMost.pair {limit otherLimit : Nat} (first : codec.AtMost limit) (second : other.AtMost otherLimit) :
    (codec.pair other).AtMost (limit + otherLimit) := by
  intro value
  rw [pair_encode, List.length_append]
  exact Nat.add_le_add (first _) (second _)

theorem AtMost.flatMap {limit : Nat} (atMost : codec.AtMost limit) (values : List α) :
    (values.flatMap codec.encode).length ≤ values.length * limit := by
  induction values with
  | nil => exact Nat.zero_le _
  | cons value values ih =>
    rw [List.flatMap_cons, List.length_append, List.length_cons, Nat.succ_mul, Nat.add_comm]
    exact Nat.add_le_add ih (atMost value)

theorem AtMost.bounded {limit : Nat} (atMost : codec.AtMost limit) :
    (bounded capacity codec).AtMost (10 + capacity * limit) := by
  intro list
  rw [bounded_encode, List.length_append]
  exact Nat.add_le_add (size_length _)
    ((atMost.flatMap list.items).trans (Nat.mul_le_mul_right limit list.fits))

theorem text_atMost : (text capacity).AtMost (10 + capacity) := by
  intro held
  rw [text_encode, List.length_append]
  exact Nat.add_le_add (size_length _) held.fits

/-! ### All three -/

section Meets

variable {limit otherLimit : Nat}

theorem byte_meets : byte.Meets .byte 1 := ⟨byte_follows, byte_writes, byte_atMost⟩

theorem word16_meets : word16.Meets .word16 3 := ⟨word16_follows, word16_writes, word16_atMost⟩

theorem word32_meets : word32.Meets .word32 5 := ⟨word32_follows, word32_writes, word32_atMost⟩

theorem text_meets (room : capacity < Width.word64.count) :
    (text capacity).Meets (.text capacity) (10 + capacity) := ⟨text_follows, text_writes room, text_atMost⟩

theorem Meets.map (meets : codec.Meets format limit) {make : α → β} {back : β → α}
    (there : ∀ value, back (make value) = value) (again : ∀ value, make (back value) = value) :
    (codec.map make back).Meets (format.map make) limit :=
  ⟨meets.follows.map fun _ => there _, meets.writes.map again, meets.atMost.map make back⟩

theorem Meets.pair (first : codec.Meets format limit) (second : other.Meets otherFormat otherLimit) :
    (codec.pair other).Meets (format.pair otherFormat) (limit + otherLimit) :=
  ⟨first.follows.pair second.follows, first.writes.pair second.writes, first.atMost.pair second.atMost⟩

theorem Meets.bounded (meets : codec.Meets format limit) (room : capacity < Width.word64.count) :
    (bounded capacity codec).Meets (.bounded capacity format) (10 + capacity * limit) :=
  ⟨meets.follows.bounded, meets.writes.bounded room, meets.atMost.bounded⟩

end Meets

end NodeBus.Codec
