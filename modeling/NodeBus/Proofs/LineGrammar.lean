import NodeBus.Proofs.HexDigits

/-!
# How a monitor's line is read

A line is read for what it holds before its line ending (`Trimmed`), and told apart by the bytes of that text in UTF-8
(`utf8`). `parseCall_cases` and `parse_cases` say everything that reading can come to; `LineGrammar` lists when each of
its results arises. A call is accepted exactly in the form it is documented in, and its bytes are those of its digit
pairs; the length of the digits is judged before their characters; whatever does not begin with a known opcode is refused
as such, also when its second byte lies inside a character. No packet is out of reach of a line, and neither the case of
the digits nor the line ending makes a difference.
-/
namespace NodeBus.Monitor

/-! ### Bytes of a line -/

/-- The bytes of some characters in UTF-8. -/
def utf8 (characters : List Char) : List UInt8 := characters.flatMap String.utf8EncodeChar

@[simp] theorem utf8_nil : utf8 [] = [] := rfl

@[simp] theorem utf8_cons (character : Char) (rest : List Char) :
    utf8 (character :: rest) = String.utf8EncodeChar character ++ utf8 rest := rfl

theorem length_utf8 (characters : List Char) : (utf8 characters).length = byteLength characters := by
  induction characters with
  | nil => rfl
  | cons character rest ih => simp [byteLength, ih]

/-- Where the bytes of two characters begin alike, the characters are the same. -/
theorem eq_of_utf8EncodeChar_append {one other : Char} {behindOne behindOther : List UInt8}
    (same : String.utf8EncodeChar one ++ behindOne = String.utf8EncodeChar other ++ behindOther) : one = other := by
  -- decoding finds by itself where the first character ends
  have decoded (character : Char) (behind : List UInt8) :
      ByteArray.utf8DecodeChar? (String.utf8EncodeChar character ++ behind).toByteArray 0 = some character := by
    rw [List.toByteArray_append]
    exact ByteArray.utf8DecodeChar?_utf8EncodeChar_append
  have first := decoded one behindOne
  rw [same, decoded other behindOther] at first
  exact (Option.some.inj first).symm

theorem utf8_append (front behind : List Char) : utf8 (front ++ behind) = utf8 front ++ utf8 behind :=
  List.flatMap_append

/-- A text begins with some characters if its bytes begin with theirs. -/
theorem utf8_isPrefix_iff {front text : List Char} : utf8 front <+: utf8 text ↔ front <+: text := by
  refine ⟨fun begins => ?_, fun ⟨behind, whole⟩ => ⟨utf8 behind, by rw [← whole, utf8_append]⟩⟩
  induction front generalizing text with
  | nil => exact List.nil_prefix
  | cons character rest ih =>
    obtain ⟨behind, whole⟩ := begins
    cases text with
    | nil => simp [String.utf8EncodeChar_ne_nil] at whole
    | cons first others =>
      rw [utf8_cons, utf8_cons, List.append_assoc] at whole
      obtain rfl := eq_of_utf8EncodeChar_append whole
      exact List.cons_prefix_cons.mpr ⟨rfl, ih ⟨behind, List.append_cancel_left whole⟩⟩

/-- The bytes of a character are bytes of hex digits exactly if it is one. -/
theorem mem_digits_iff_utf8 (character : Char) : character ∈ HexPairs.digits ↔
    ∀ byte ∈ String.utf8EncodeChar character, byte ∈ HexPairs.digits.map Char.toUInt8 := by
  have single : ∀ digit ∈ HexPairs.digits, String.utf8EncodeChar digit = [digit.toUInt8] :=
    fun digit member => String.utf8EncodeChar_eq_singleton (HexPairs.utf8Size_of_mem_digits member)
  constructor
  · intro member byte encoded
    rw [single character member, List.mem_singleton] at encoded
    rw [encoded]
    exact List.mem_map_of_mem member
  · intro allDigits
    obtain ⟨first, behind, bytes⟩ := List.exists_cons_of_ne_nil (String.utf8EncodeChar_ne_nil (c := character))
    obtain ⟨digit, member, same⟩ := List.mem_map.mp (allDigits first (by simp [bytes]))
    -- a digit is a single byte, so that the first byte alone tells the character
    have alike : String.utf8EncodeChar character ++ [] = String.utf8EncodeChar digit ++ behind := by
      rw [List.append_nil, bytes, single digit member, same]
      rfl
    rwa [eq_of_utf8EncodeChar_append alike]

/-! ### The line ending -/

/-- The text is what the line holds before the run of CR and LF at its end. -/
def Trimmed (line text : List Char) : Prop :=
  ∃ ending, line = text ++ ending ∧ (∀ character ∈ ending, character = '\r' ∨ character = '\n') ∧
    ∀ last ∈ text.getLast?, last ≠ '\r' ∧ last ≠ '\n'

theorem isLineEnd_iff (character : Char) : isLineEnd character = true ↔ character = '\r' ∨ character = '\n' := by
  simp [isLineEnd]

theorem trimmed_trimEnd (line : List Char) : Trimmed line (trimEnd line) := by
  refine ⟨line.rtakeWhile isLineEnd, (List.rdropWhile_append_rtakeWhile ..).symm, ?_, ?_⟩
  · intro character member
    exact (isLineEnd_iff character).mp (List.mem_rtakeWhile_imp member)
  · intro last isLast
    obtain ⟨nonempty, same⟩ := List.mem_getLast?_eq_getLast isLast
    have inside := List.rdropWhile_last_not isLineEnd line nonempty
    rw [← not_or, ← isLineEnd_iff, same]
    exact inside

theorem Trimmed.trimEnd_eq {line text : List Char} (trimmed : Trimmed line text) : trimEnd line = text := by
  obtain ⟨ending, rfl, ends, inside⟩ := trimmed
  have kept : text.rdropWhile isLineEnd = text := by
    rw [List.rdropWhile_eq_self_iff]
    intro nonempty
    rw [isLineEnd_iff, not_or]
    exact inside _ (List.getLast?_eq_some_getLast nonempty)
  have dropped : ∀ character ∈ ending.reverse, isLineEnd character = true := by
    intro character member
    exact (isLineEnd_iff character).mpr (ends character (List.mem_reverse.mp member))
  rw [trimEnd, List.reverse_append, List.dropWhile_append_of_pos dropped]
  exact kept

/-! ### The digits of a call -/

/-- The digits of a call: an even number of hex digits that holds an address, a command and at most sixteen parameters. -/
structure IsCallDigits (digits : List Char) : Prop where
  even : digits.length % 2 = 0
  atLeast : 4 ≤ digits.length
  atMost : digits.length ≤ 36
  hex : ∀ character ∈ digits, character ∈ HexPairs.digits

/-- Digits that spell some bytes are as many as their pairs, and each of them is a hex digit. -/
theorem isCallDigits_of_spells {digits : List Char} {address command : UInt8} {params : List UInt8}
    (spells : HexPairs.Spells digits (address :: command :: params)) (fits : params.length ≤ maxParams) :
    IsCallDigits digits := by
  have read := spells.read.1
  have length : digits.length = 2 * (params.length + 2) := by
    have pairs := congrArg List.length spells
    rwa [List.length_map, HexPairs.length_encode] at pairs
  have characters := (HexPairs.decode?_isSome_iff digits).mp (by rw [read]; rfl)
  rw [maxParams] at fits
  exact { even := characters.1, atLeast := by omega, atMost := by omega, hex := characters.2 }

theorem byteLength_of_digits {digits : List Char} (hex : ∀ character ∈ digits, character ∈ HexPairs.digits) :
    byteLength digits = digits.length := by
  induction digits with
  | nil => rfl
  | cons digit rest ih =>
    obtain ⟨first, others⟩ := List.forall_mem_cons.mp hex
    rw [byteLength, HexPairs.utf8Size_of_mem_digits first, ih others, List.length_cons, Nat.add_comm]

/-- Of a fitting length, only digits can be read. -/
theorem decode?_eq_none_iff {digits : List Char} (even : byteLength digits % 2 = 0) :
    HexPairs.decode? digits = none ↔ ∃ byte ∈ utf8 digits, byte ∉ HexPairs.digits.map Char.toUInt8 := by
  have allHex : (∀ character ∈ digits, character ∈ HexPairs.digits) ↔
      ∀ byte ∈ utf8 digits, byte ∈ HexPairs.digits.map Char.toUInt8 := by
    simp only [utf8, List.forall_mem_flatMap, mem_digits_iff_utf8]
  rw [← Option.not_isSome_iff_eq_none, HexPairs.decode?_isSome_iff, allHex]
  constructor
  · intro unread
    by_contra noneOther
    push Not at noneOther
    refine unread ⟨?_, noneOther⟩
    rwa [← byteLength_of_digits (allHex.mpr noneOther)]
  · rintro ⟨byte, member, other⟩ ⟨-, all⟩
    exact other (all byte member)

/-! ### What reading comes to -/

/-- The forms of a line that are known by their first two letters. -/
def opcodes : List (List Char) := [['C', 'A'], ['I', 'E'], ['I', 'D']]

/-- The length of the digits is judged first, then each of them, and then they are the packet. -/
theorem parseCall_cases (digits : List Char) :
    ((byteLength digits % 2 = 1 ∨ byteLength digits < 4 ∨ 36 < byteLength digits) ∧
      parseCall digits = .error .badLength) ∨
    (byteLength digits % 2 = 0 ∧ 4 ≤ byteLength digits ∧ byteLength digits ≤ 36) ∧
      (HexPairs.decode? digits = none ∧ parseCall digits = .error .badDigit ∨
        ∃ address command params, HexPairs.Spells digits (address :: command :: params.items) ∧
          parseCall digits = .ok { address, command, params }) := by
  by_cases unfit : byteLength digits % 2 ≠ 0 ∨ byteLength digits < 4 ∨ 4 + 2 * maxParams < byteLength digits
  · left
    refine ⟨by simp only [maxParams] at unfit; omega, ?_⟩
    rw [parseCall, if_pos unfit]
  · right
    refine ⟨by simp only [maxParams] at unfit; omega, ?_⟩
    simp only [parseCall, if_neg unfit]
    cases read : HexPairs.decode? digits with
    | none => exact .inl ⟨rfl, rfl⟩
    | some bytes =>
      right
      have spells := (HexPairs.decode?_eq_some_iff digits bytes).mp read
      have length := spells.read.2.1
      -- a fitting length leaves at least an address and a command, and no more parameters than a packet holds
      obtain ⟨address, command, params, rfl⟩ : ∃ address command params, bytes = address :: command :: params := by
        rcases bytes with _ | ⟨address, _ | ⟨command, params⟩⟩
        · simp at length
          omega
        · simp at length
          omega
        · exact ⟨address, command, params, rfl⟩
      have fits : params.length ≤ maxParams := by
        simp only [List.length_cons] at length
        omega
      exact ⟨address, command, ⟨params, fits⟩, spells, by simp only [Bounded.ofList?, dif_pos fits]⟩

/-- A line is read by its first two letters, and refused when they are not known. -/
theorem parse_cases (line : List Char) :
    (∃ digits, trimEnd line = 'C' :: 'A' :: digits ∧ parse line = (parseCall digits).map .call) ∨
    (∃ behind, trimEnd line = 'I' :: 'E' :: behind ∧ parse line = .ok .interruptsOn) ∨
    (∃ behind, trimEnd line = 'I' :: 'D' :: behind ∧ parse line = .ok .interruptsOff) ∨
    (∀ opcode ∈ opcodes, ¬ opcode <+: trimEnd line) ∧ parse line = .error .unknownOpcode := by
  unfold parse
  split
  · rename_i digits text
    exact .inl ⟨digits, text, rfl⟩
  · rename_i behind text
    exact .inr (.inl ⟨behind, text, rfl⟩)
  · rename_i behind text
    exact .inr (.inr (.inl ⟨behind, text, rfl⟩))
  · rename_i notCall notOn notOff
    refine .inr (.inr (.inr ⟨?_, rfl⟩))
    simp only [opcodes, List.mem_cons, List.not_mem_nil, or_false, forall_eq_or_imp, forall_eq]
    refine ⟨?_, ?_, ?_⟩
    all_goals rintro ⟨behind, text⟩
    · exact notCall behind text.symm
    · exact notOn behind text.symm
    · exact notOff behind text.symm

theorem parse_of_call {line digits : List Char} (text : trimEnd line = 'C' :: 'A' :: digits) :
    parse line = (parseCall digits).map .call := by
  simp only [parse, text]

theorem parse_eq_call_iff (line : List Char) (packet : Packet) : parse line = .ok (.call packet) ↔
    ∃ digits, trimEnd line = 'C' :: 'A' :: digits ∧ parseCall digits = .ok packet := by
  constructor
  · intro read
    rcases parse_cases line with ⟨digits, text, result⟩ | ⟨_, -, result⟩ | ⟨_, -, result⟩ | ⟨-, result⟩
    · refine ⟨digits, text, ?_⟩
      rw [result] at read
      cases parsed : parseCall digits with
      | error error => simp [parsed, Except.map] at read
      | ok other => simpa [parsed, Except.map] using read
    all_goals simp [result] at read
  · rintro ⟨digits, text, parsed⟩
    rw [parse_of_call text, parsed]
    rfl

theorem parse_eq_error_iff (line : List Char) {error : LineError} (known : error ≠ .unknownOpcode) :
    parse line = .error error ↔ ∃ digits, trimEnd line = 'C' :: 'A' :: digits ∧ parseCall digits = .error error := by
  constructor
  · intro read
    rcases parse_cases line with ⟨digits, text, result⟩ | ⟨_, -, result⟩ | ⟨_, -, result⟩ | ⟨-, result⟩
    · refine ⟨digits, text, ?_⟩
      rw [result] at read
      cases parsed : parseCall digits with
      | error other => simpa [parsed, Except.map] using read
      | ok packet => simp [parsed, Except.map] at read
    · simp [result] at read
    · simp [result] at read
    · rw [result] at read
      exact absurd (Except.error.inj read).symm known
  · rintro ⟨digits, text, parsed⟩
    rw [parse_of_call text, parsed]
    rfl

theorem parseCall_eq_ok_iff (digits : List Char) (packet : Packet) : parseCall digits = .ok packet ↔
    packet.status = .empty ∧ HexPairs.Spells digits (packet.address :: packet.command :: packet.params.items) := by
  constructor
  · intro read
    rcases parseCall_cases digits with ⟨-, result⟩ | ⟨-, ⟨-, result⟩ | ⟨address, command, params, spells, result⟩⟩
    · simp [result] at read
    · simp [result] at read
    · obtain rfl := Except.ok.inj (result.symm.trans read)
      exact ⟨rfl, spells⟩
  · obtain ⟨address, command, params, status⟩ := packet
    rintro ⟨fresh, spells⟩
    obtain rfl : status = .empty := fresh
    exact parseCall_of_spells spells

theorem parseCall_eq_badLength_iff (digits : List Char) : parseCall digits = .error .badLength ↔
    byteLength digits % 2 = 1 ∨ byteLength digits < 4 ∨ 36 < byteLength digits := by
  rcases parseCall_cases digits with ⟨unfit, result⟩ | ⟨fit, ⟨-, result⟩ | ⟨_, _, _, -, result⟩⟩
  · simp [result, unfit]
  · simp [result]
    omega
  · simp [result]
    omega

theorem parseCall_eq_badDigit_iff (digits : List Char) : parseCall digits = .error .badDigit ↔
    (byteLength digits % 2 = 0 ∧ 4 ≤ byteLength digits ∧ byteLength digits ≤ 36) ∧ HexPairs.decode? digits = none := by
  rcases parseCall_cases digits with ⟨unfit, result⟩ | ⟨fit, ⟨unread, result⟩ | ⟨_, _, _, spells, result⟩⟩
  · simp [result]
    omega
  · simp [result, fit, unread]
  · simp [result, spells.read.1]

/-- A line is refused as unknown exactly if it begins with no opcode. -/
theorem parse_eq_unknownOpcode_iff (line : List Char) : parse line = .error .unknownOpcode ↔
    ∀ opcode ∈ opcodes, ¬ opcode <+: trimEnd line := by
  rcases parse_cases line with ⟨digits, text, result⟩ | ⟨behind, text, result⟩ | ⟨behind, text, result⟩ | ⟨unknown, result⟩
  · have known : ['C', 'A'] <+: trimEnd line := ⟨digits, text.symm⟩
    rcases parseCall_cases digits with ⟨-, parsed⟩ | ⟨-, ⟨-, parsed⟩ | ⟨_, _, _, -, parsed⟩⟩ <;>
      simp [result, parsed, Except.map, opcodes, known]
  · have known : ['I', 'E'] <+: trimEnd line := ⟨behind, text.symm⟩
    simp [result, opcodes, known]
  · have known : ['I', 'D'] <+: trimEnd line := ⟨behind, text.symm⟩
    simp [result, opcodes, known]
  · exact ⟨fun _ => unknown, fun _ => result⟩

theorem length_utf8_opcode : ∀ opcode ∈ opcodes, (utf8 opcode).length = 2 := by decide

/-- An opcode is told by the first two bytes. -/
theorem take_utf8_eq_iff {opcode text : List Char} (known : opcode ∈ opcodes) :
    (utf8 text).take 2 = utf8 opcode ↔ opcode <+: text := by
  rw [← utf8_isPrefix_iff, List.prefix_iff_eq_take, length_utf8_opcode opcode known, eq_comm]

/-! ### The grammar of a line -/

/-- The texts are the same but for the case of ASCII letters behind their first two bytes. -/
def SameButForCase (text other : List Char) : Prop :=
  text.map Char.toUpper = other.map Char.toUpper ∧ (utf8 text).take 2 = (utf8 other).take 2

/-- How a line is read that holds this text before its line ending. -/
structure LineGrammar (line text : List Char) : Prop where
  trimmed : Trimmed line text
  /-- The address, the command and the parameters are the digit pairs in order. -/
  call : ∀ packet, parse line = .ok (.call packet) ↔ packet.status = .empty ∧
    ∃ digits, text = 'C' :: 'A' :: digits ∧ IsCallDigits digits ∧
      digits.map Char.toUpper = HexPairs.upperPairs (packet.address :: packet.command :: packet.params.items)
  called : (∃ packet, parse line = .ok (.call packet)) ↔ ∃ digits, text = 'C' :: 'A' :: digits ∧ IsCallDigits digits
  badLength : parse line = .error .badLength ↔ ∃ digits, text = 'C' :: 'A' :: digits ∧
    ((utf8 digits).length % 2 = 1 ∨ (utf8 digits).length < 4 ∨ 36 < (utf8 digits).length)
  badDigit : parse line = .error .badDigit ↔ ∃ digits, text = 'C' :: 'A' :: digits ∧
    ((utf8 digits).length % 2 = 0 ∧ 4 ≤ (utf8 digits).length ∧ (utf8 digits).length ≤ 36) ∧
    ∃ byte ∈ utf8 digits, byte ∉ HexPairs.digits.map Char.toUInt8
  /-- The second byte may be missing, or inside a character, or the first two are no opcode. -/
  unknownOpcode : parse line = .error .unknownOpcode ↔ (utf8 text).length < 2 ∨
    (¬ ∃ front behind, text = front ++ behind ∧ (utf8 front).length = 2) ∨
    ∀ opcode ∈ opcodes, (utf8 text).take 2 ≠ utf8 opcode
  alike : ∀ other ending, SameButForCase text other →
    (∀ character ∈ ending, character = '\r' ∨ character = '\n') → parse (other ++ ending) = parse line

theorem byteLength_of_sameCase {digits other : List Char} (same : digits.map Char.toUpper = other.map Char.toUpper) :
    byteLength digits = byteLength other := by
  have raised (characters : List Char) : byteLength (characters.map Char.toUpper) = byteLength characters := by
    induction characters with
    | nil => rfl
    | cons character rest ih => rw [List.map_cons, byteLength, byteLength, ih, (HexPairs.toUpper_read character).2.1]
  rw [← raised digits, same, raised other]

theorem parseCall_of_sameCase {digits other : List Char} (same : digits.map Char.toUpper = other.map Char.toUpper) :
    parseCall digits = parseCall other := by
  have read : HexPairs.decode? digits = HexPairs.decode? other := by
    ext bytes
    rw [HexPairs.decode?_eq_some_iff, HexPairs.decode?_eq_some_iff, HexPairs.Spells, HexPairs.Spells, same]
  simp only [parseCall, byteLength_of_sameCase same, read]

namespace SameButForCase

variable {text other : List Char}

theorem begins (same : SameButForCase text other) (opcode : List Char) (known : opcode ∈ opcodes)
    (begins : opcode <+: text) : opcode <+: other := by
  rw [← take_utf8_eq_iff known, ← same.2, take_utf8_eq_iff known]
  exact begins

theorem symm (same : SameButForCase text other) : SameButForCase other text := ⟨same.1.symm, same.2.symm⟩

/-- Case does not make a line ending. -/
theorem trimmed (same : SameButForCase text other) {ending : List Char}
    (inside : ∀ last ∈ text.getLast?, last ≠ '\r' ∧ last ≠ '\n')
    (ends : ∀ character ∈ ending, character = '\r' ∨ character = '\n') : Trimmed (other ++ ending) other := by
  refine ⟨ending, rfl, ends, ?_⟩
  intro last isLast
  have raised : last.toUpper ∈ (text.map Char.toUpper).getLast? := by
    rw [same.1, List.getLast?_map]
    exact Option.mem_map_of_mem _ isLast
  rw [List.getLast?_map] at raised
  obtain ⟨before, isBefore, alike⟩ := Option.mem_map.mp raised
  rw [← not_or, ← isLineEnd_iff, ← (HexPairs.toUpper_read last).2.2, ← alike, (HexPairs.toUpper_read before).2.2,
    isLineEnd_iff, not_or]
  exact inside before isBefore

/-- Lines whose texts are the same but for case are read alike. -/
theorem parse_eq {line otherLine : List Char} (same : SameButForCase (trimEnd line) (trimEnd otherLine)) :
    parse otherLine = parse line := by
  have sameBehind {first second : Char} {behind otherBehind : List Char}
      (text : trimEnd line = first :: second :: behind) (other : first :: second :: otherBehind = trimEnd otherLine) :
      behind.map Char.toUpper = otherBehind.map Char.toUpper := by
    have raised := same.1
    rw [text, ← other] at raised
    simpa using raised
  rcases parse_cases line with ⟨digits, text, result⟩ | ⟨behind, text, result⟩ | ⟨behind, text, result⟩ | ⟨unknown, result⟩
  · obtain ⟨otherDigits, other⟩ := same.begins ['C', 'A'] (by decide) ⟨digits, text.symm⟩
    rw [result, parse_of_call other.symm, parseCall_of_sameCase (sameBehind text other)]
  · obtain ⟨otherBehind, other⟩ := same.begins ['I', 'E'] (by decide) ⟨behind, text.symm⟩
    rw [result, parse, ← other]
    rfl
  · obtain ⟨otherBehind, other⟩ := same.begins ['I', 'D'] (by decide) ⟨behind, text.symm⟩
    rw [result, parse, ← other]
    rfl
  · rw [result, parse_eq_unknownOpcode_iff]
    exact fun opcode known begins => unknown opcode known (same.symm.begins opcode known begins)

end SameButForCase

/-- What spells a packet is the digits of a call. -/
theorem parseCall_eq_ok_iff_digits (digits : List Char) (packet : Packet) : parseCall digits = .ok packet ↔
    packet.status = .empty ∧ IsCallDigits digits ∧
      digits.map Char.toUpper = HexPairs.upperPairs (packet.address :: packet.command :: packet.params.items) := by
  rw [parseCall_eq_ok_iff, ← HexPairs.encode_eq_upperPairs]
  constructor
  · rintro ⟨fresh, spells⟩
    exact ⟨fresh, isCallDigits_of_spells spells packet.params.fits, spells⟩
  · rintro ⟨fresh, -, spells⟩
    exact ⟨fresh, spells⟩

/-- Digits of a call are read as a packet. -/
theorem exists_parseCall_iff (digits : List Char) : (∃ packet, parseCall digits = .ok packet) ↔ IsCallDigits digits := by
  constructor
  · rintro ⟨packet, parsed⟩
    exact ((parseCall_eq_ok_iff_digits digits packet).mp parsed).2.1
  · rintro ⟨even, atLeast, atMost, hex⟩
    have length := byteLength_of_digits hex
    have read := (HexPairs.decode?_isSome_iff digits).mpr ⟨even, hex⟩
    rcases parseCall_cases digits with ⟨unfit, -⟩ | ⟨-, ⟨unread, -⟩ | ⟨_, _, _, -, parsed⟩⟩
    · omega
    · simp [unread] at read
    · exact ⟨_, parsed⟩

/-- An opcode ends at a character boundary, behind two bytes. -/
theorem not_begins_iff (text : List Char) : (∀ opcode ∈ opcodes, ¬ opcode <+: text) ↔ (utf8 text).length < 2 ∨
    (¬ ∃ front behind, text = front ++ behind ∧ (utf8 front).length = 2) ∨
    ∀ opcode ∈ opcodes, (utf8 text).take 2 ≠ utf8 opcode := by
  have noneEqual : (∀ opcode ∈ opcodes, (utf8 text).take 2 ≠ utf8 opcode) ↔ ∀ opcode ∈ opcodes, ¬ opcode <+: text :=
    forall₂_congr fun opcode known => not_congr (take_utf8_eq_iff known)
  rw [noneEqual]
  refine ⟨fun unknown => .inr (.inr unknown), ?_⟩
  rintro (short | inside | unknown) opcode known begins
  · have bytes := (utf8_isPrefix_iff.mpr begins).length_le
    rw [length_utf8_opcode opcode known] at bytes
    omega
  · obtain ⟨behind, whole⟩ := begins
    exact inside ⟨opcode, behind, whole.symm, length_utf8_opcode opcode known⟩
  · exact unknown opcode known begins

/-- **Every line is read by this grammar**, and there is a line for every packet that can be sent. -/
theorem lines_read : (∀ line, LineGrammar line (trimEnd line)) ∧
    ∀ address command params, ∃ line, parse line = .ok (.call { address, command, params }) := by
  refine ⟨fun line => ?_, fun address command params => ?_⟩
  · obtain ⟨-, -, -, inside⟩ := trimmed_trimEnd line
    exact {
      trimmed := trimmed_trimEnd line
      call := by
        intro packet
        simp only [parse_eq_call_iff, parseCall_eq_ok_iff_digits]
        constructor
        · rintro ⟨digits, text, fresh, read⟩
          exact ⟨fresh, digits, text, read⟩
        · rintro ⟨fresh, digits, text, read⟩
          exact ⟨digits, text, fresh, read⟩
      called := by
        simp only [parse_eq_call_iff, ← exists_parseCall_iff]
        rw [exists_comm]
        simp only [exists_and_left]
      badLength := by
        rw [parse_eq_error_iff line (by decide)]
        simp only [parseCall_eq_badLength_iff, length_utf8]
      badDigit := by
        rw [parse_eq_error_iff line (by decide)]
        simp only [parseCall_eq_badDigit_iff, length_utf8]
        refine exists_congr fun digits => and_congr_right fun _ => and_congr_right fun fit => ?_
        exact decode?_eq_none_iff fit.1
      unknownOpcode := (parse_eq_unknownOpcode_iff line).trans (not_begins_iff (trimEnd line))
      alike := by
        intro other ending same ends
        apply SameButForCase.parse_eq
        rwa [(same.trimmed inside ends).trimEnd_eq] }
  · let packet : Packet := { address, command, params }
    have spelled := HexPairs.spells_encode (packet.address :: packet.command :: packet.params.items)
    have nothing : ∀ character ∈ ([] : List Char), isLineEnd character = true := by simp
    exact ⟨_, parse_call packet rfl spelled nothing⟩

end NodeBus.Monitor
