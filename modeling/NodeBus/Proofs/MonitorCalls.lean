import NodeBus.Proofs.MonitorReplies

/-!
# Calls from monitors

A monitor's call of a node and a client's request to send the same packet come to the same thing
(`call_agrees_with_request`): the line that spells the packet, in digits of either case, is read as that packet
(`Monitor.parse_call`), and the outcome is told in the terms of either protocol.
-/
namespace NodeBus

namespace HexPairs

/-- A character whose upper case is a digit is that digit or its lower case. -/
theorem eq_or_eq_of_toUpper {character upper : Char} (raised : character.toUpper = upper) :
    character = upper ∨ character = upper.toLower := by
  by_cases lower : character.isLower = true
  · right
    rw [← raised, Char.toLower_toUpper_eq_toLower, Char.toLower_eq_of_not_isUpper (Char.not_isUpper_of_isLower lower)]
  · exact .inl (by rw [← raised, Char.toUpper_eq_of_not_isLower lower])

theorem digit_read : ∀ value : UInt8, value < 16 →
    digitValue? (digit value) = some value ∧ digitValue? (digit value).toLower = some value := by
  decide +kernel

theorem digit_inside : ∀ value : UInt8, value < 16 →
    ((digit value).utf8Size = 1 ∧ Monitor.isLineEnd (digit value) = false) ∧
      (digit value).toLower.utf8Size = 1 ∧ Monitor.isLineEnd (digit value).toLower = false := by
  decide +kernel

/-- A digit is read in either case. -/
theorem digitValue?_of_toUpper {character : Char} {value : UInt8} (small : value < 16)
    (spelled : character.toUpper = digit value) :
    digitValue? character = some value ∧ character.utf8Size = 1 ∧ Monitor.isLineEnd character = false := by
  rcases eq_or_eq_of_toUpper spelled with rfl | rfl
  · exact ⟨(digit_read value small).1, (digit_inside value small).1⟩
  · exact ⟨(digit_read value small).2, (digit_inside value small).2⟩

theorem halves_join : ∀ byte : UInt8, byte / 16 * 16 + byte % 16 = byte := by
  decide +kernel

/-- The digits spell the bytes, each in either case. -/
def Spells (digits : List Char) (bytes : List UInt8) : Prop := digits.map Char.toUpper = encode bytes

/-- Digits that spell some bytes are read as these bytes. -/
theorem Spells.read {digits : List Char} {bytes : List UInt8} (spells : Spells digits bytes) :
    decode? digits = some bytes ∧ Monitor.byteLength digits = 2 * bytes.length ∧
      ∀ character ∈ digits, Monitor.isLineEnd character = false := by
  induction bytes generalizing digits with
  | nil =>
    obtain rfl : digits = [] := by simpa [Spells, encode] using spells
    simp [decode?, Monitor.byteLength]
  | cons byte rest ih =>
    obtain ⟨high, digits, rfl, isHigh, spells⟩ := List.map_eq_cons_iff.mp spells
    obtain ⟨low, digits, rfl, isLow, spells⟩ := List.map_eq_cons_iff.mp spells
    obtain ⟨small, smallToo⟩ := halves_lt byte
    obtain ⟨highValue, highSize, highInside⟩ := digitValue?_of_toUpper small isHigh
    obtain ⟨lowValue, lowSize, lowInside⟩ := digitValue?_of_toUpper smallToo isLow
    obtain ⟨bytes, length, inside⟩ := ih spells
    refine ⟨?_, ?_, ?_⟩
    · simp [decode?, highValue, lowValue, bytes, halves_join]
    · simp only [Monitor.byteLength, highSize, lowSize, length, List.length_cons]
      omega
    · rw [List.forall_mem_cons, List.forall_mem_cons]
      exact ⟨highInside, lowInside, inside⟩

end HexPairs

namespace Monitor

/-- A line ending is cut off, and nothing else. -/
theorem trimEnd_append {line ending : List Char} (inside : ∀ character ∈ line, isLineEnd character = false)
    (ends : ∀ character ∈ ending, isLineEnd character = true) : trimEnd (line ++ ending) = line := by
  have cut : line.reverse.dropWhile isLineEnd = line.reverse := by
    cases flipped : line.reverse with
    | nil => rfl
    | cons last before =>
      have member : last ∈ line.reverse := by simp [flipped]
      simp [inside last (List.mem_reverse.mp member)]
  rw [trimEnd, List.reverse_append, List.dropWhile_append_of_pos (by simpa using ends), cut, List.reverse_reverse]

/-- Digits that spell a packet are read as that packet. -/
theorem parseCall_of_spells {digits : List Char} {address command : UInt8} {params : Bounded UInt8 maxParams}
    (spells : HexPairs.Spells digits (address :: command :: params.items)) :
    parseCall digits = .ok { address, command, params } := by
  obtain ⟨params, fits⟩ := params
  obtain ⟨bytes, length, -⟩ := spells.read
  have fitting : ¬ (byteLength digits % 2 ≠ 0 ∨ byteLength digits < 4 ∨ 4 + 2 * maxParams < byteLength digits) := by
    simp only [length, List.length_cons]
    omega
  simp only [parseCall, if_neg fitting, bytes, Bounded.ofList?, dif_pos fits]

/-- The line that spells a packet, with any line ending, is read as that packet. -/
theorem parse_call (packet : Packet) (fresh : packet.status = .empty) {digits ending : List Char}
    (spells : HexPairs.Spells digits (packet.address :: packet.command :: packet.params.items))
    (ends : ∀ character ∈ ending, isLineEnd character = true) :
    parse ('C' :: 'A' :: digits ++ ending) = .ok (.call packet) := by
  obtain ⟨address, command, params, status⟩ := packet
  obtain rfl : status = .empty := fresh
  have trimmed : trimEnd ('C' :: 'A' :: digits ++ ending) = 'C' :: 'A' :: digits := by
    apply trimEnd_append _ ends
    rw [List.forall_mem_cons, List.forall_mem_cons]
    exact ⟨rfl, rfl, spells.read.2.2⟩
  have read := parseCall_of_spells spells
  rw [parse, trimmed]
  simp [read, Except.map]

end Monitor

namespace Service

/-- The status of an outcome is ok only if the exchange succeeded. -/
theorem status_ne_ok (error : BusError) : error.status ≠ .ok := by
  cases error <;> decide

/-- **A monitor's call agrees with a client's request** to send the same packet. They leave the same controller, with
its bus: what was written to it and what is still to be read. -/
theorem call_agrees_with_request (helper : Helper) (controller : Controller) (report : Bool) (packet : Packet)
    (fresh : packet.status = .empty) (digits ending : List Char)
    (spelled : digits.map Char.toUpper = HexPairs.encode (packet.address :: packet.command :: packet.params.items))
    (ends : ∀ character ∈ ending, character = '\r' ∨ character = '\n') :
    let answered := answerLine controller report ('C' :: 'A' :: digits ++ ending)
    let executed := execute helper controller (.sendPacket packet)
    answered.controller = executed.2 ∧ answered.report = report ∧
      ∃ sent, executed.1.body = .packet sent ∧
        (executed.1.status = .ok → answered.reply = Monitor.statusReply sent) ∧
        (executed.1.status ≠ .ok → answered.reply.text =
          String.ofList ('C' :: 'E' :: HexPairs.pair executed.1.status.code ++ ['\n'])) := by
  have parsed := Monitor.parse_call packet fresh spelled (by simpa [Monitor.isLineEnd] using ends)
  simp only [execute, answerLine, parsed]
  cases outcome : (controller.send packet).outcome with
  | ok =>
    dsimp only [Outcome.status]
    refine ⟨rfl, rfl, (controller.send packet).packet, rfl, ?_, ?_⟩
    · exact fun _ => rfl
    · exact fun failed => absurd rfl failed
  | error error =>
    dsimp only [Outcome.status]
    refine ⟨rfl, rfl, (controller.send packet).packet, rfl, ?_, ?_⟩
    · exact fun worked => absurd worked (status_ne_ok error)
    · exact fun _ => (Monitor.failureReply_written error.status).1

/-- A packet with a parameter. -/
def calling : Packet := { address := 0x1A, command := 0x0C, params := ⟨[0xE9], by decide⟩ }

/-- The node called answers once. -/
def answersOnce : Controller :=
  { settings := {}, bus := { script := [{ bytes := [0x02, 0xC1, 0x1A, 0x0C, 0x7F, 0x62, 0x03] }] } }

/-- The first call succeeds, however its digits are spelled, and the second one hears nothing. -/
theorem answersOnce_agrees :
    let first := answerLine answersOnce true ['C', 'A', '1', 'a', '0', 'C', 'e', '9', '\r', '\n']
    let second := answerLine first.controller true ['C', 'A', '1', 'A', '0', 'c', 'E', '9']
    first.controller = (execute {} answersOnce (.sendPacket calling)).2 ∧ first.reply.text = "RS1A0C7F\n" ∧
      second.controller = (execute {} first.controller (.sendPacket calling)).2 ∧ second.reply.text = "CE01\n" := by
  obtain ⟨sameFirst, -⟩ := call_agrees_with_request {} answersOnce true calling rfl ['1', 'a', '0', 'C', 'e', '9']
    ['\r', '\n'] (by decide +kernel) (by simp)
  obtain ⟨sameSecond, -⟩ := call_agrees_with_request {}
    (answerLine answersOnce true ['C', 'A', '1', 'a', '0', 'C', 'e', '9', '\r', '\n']).controller true calling rfl
    ['1', 'A', '0', 'c', 'E', '9'] [] (by decide +kernel) (by simp)
  exact ⟨sameFirst, by decide +kernel, sameSecond, by decide +kernel⟩

end Service

end NodeBus
