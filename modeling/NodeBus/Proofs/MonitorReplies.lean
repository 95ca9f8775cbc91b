import Mathlib
import NodeBus.EventLoop.Basic

/-!
# What is sent to monitors

A line is put together of pieces that are left out when they do not fit. None ever is (`text_line`), so that every
answer and every notice is one line: it ends with a newline and has no other (`IsReplyLine`).
-/
namespace NodeBus

/-- The bytes are one line: they end with a newline and hold no other. -/
def IsReplyLine (bytes : List UInt8) : Prop := ∃ body, bytes = body ++ [newline] ∧ newline ∉ body

/-- Each of the characters takes one byte. -/
def IsAscii (characters : List Char) : Prop := ∀ character ∈ characters, character.utf8Size = 1

theorem utf8ByteSize_of_isAscii {characters : List Char} (ascii : IsAscii characters) :
    (String.ofList characters).utf8ByteSize = characters.length := by
  induction characters with
  | nil => rfl
  | cons character rest ih =>
    obtain ⟨single, others⟩ := List.forall_mem_cons.mp ascii
    rw [String.ofList_cons, String.utf8ByteSize_append, ih others, String.utf8ByteSize_singleton, single]
    simp [Nat.add_comm]

theorem bytes_of_isAscii {characters : List Char} (ascii : IsAscii characters) :
    (String.ofList characters).toByteArray.data.toList = characters.map Char.toUInt8 := by
  rw [String.toByteArray_ofList, List.utf8Encode, List.toList_data_toByteArray]
  induction characters with
  | nil => rfl
  | cons character rest ih =>
    obtain ⟨single, others⟩ := List.forall_mem_cons.mp ascii
    rw [List.flatMap_cons, String.utf8EncodeChar_eq_singleton single, ih others]
    rfl

namespace HexPairs

/-- The digits that are written are ASCII, and none ends a line. -/
theorem digit_written : ∀ value : UInt8, value < 16 → (digit value).utf8Size = 1 ∧ (digit value).toUInt8 ≠ newline := by
  decide +kernel

theorem halves_lt : ∀ byte : UInt8, byte / 16 < 16 ∧ byte % 16 < 16 := by
  decide +kernel

@[simp] theorem length_pair (byte : UInt8) : (pair byte).length = 2 := rfl

theorem pair_written {byte : UInt8} {character : Char} (member : character ∈ pair byte) :
    character.utf8Size = 1 ∧ character.toUInt8 ≠ newline := by
  obtain ⟨high, low⟩ := halves_lt byte
  rcases List.mem_pair.mp member with rfl | rfl
  · exact digit_written _ high
  · exact digit_written _ low

@[simp] theorem length_encode (bytes : List UInt8) : (encode bytes).length = 2 * bytes.length := by
  simp [encode, List.length_flatMap, Nat.mul_comm]

theorem encode_written {bytes : List UInt8} {character : Char} (member : character ∈ encode bytes) :
    character.utf8Size = 1 ∧ character.toUInt8 ≠ newline := by
  obtain ⟨byte, -, inPair⟩ := List.mem_flatMap.mp member
  exact pair_written inPair

end HexPairs

namespace Monitor

/-- Pieces that fit are all put behind what is held. -/
theorem text_foldl_append {capacity : Nat} (held : BoundedText capacity) (pieces : List (List Char))
    (fits : held.text.utf8ByteSize + (String.ofList pieces.flatten).utf8ByteSize ≤ capacity) :
    (pieces.foldl BoundedText.append held).text = held.text ++ String.ofList pieces.flatten := by
  induction pieces generalizing held with
  | nil => simp
  | cons piece rest ih =>
    simp only [List.flatten_cons, String.ofList_append, String.utf8ByteSize_append] at fits
    have room : (held.text ++ String.ofList piece).utf8ByteSize ≤ capacity := by
      rw [String.utf8ByteSize_append]
      omega
    have appended : (held.append piece).text = held.text ++ String.ofList piece := by
      rw [BoundedText.append, BoundedText.ofString?, dif_pos room, Option.getD_some]
    rw [List.foldl_cons, ih]
    · rw [appended, List.flatten_cons, String.ofList_append, String.append_assoc]
    · rw [appended, String.utf8ByteSize_append]
      omega

/-- No piece of a line that is short enough is left out. -/
theorem text_line {pieces : List (List Char)} (ascii : IsAscii pieces.flatten)
    (short : pieces.flatten.length ≤ maxReply) : (line pieces).text = String.ofList pieces.flatten := by
  have fits := utf8ByteSize_of_isAscii ascii
  rw [line, text_foldl_append]
  · simp [BoundedText.empty]
  · simpa [BoundedText.empty, fits] using short

theorem isReplyLine_line {pieces : List (List Char)} {body : List Char} (whole : pieces.flatten = body ++ ['\n'])
    (short : body.length < maxReply)
    (written : ∀ character ∈ body, character.utf8Size = 1 ∧ character.toUInt8 ≠ newline) :
    (line pieces).text = String.ofList (body ++ ['\n']) ∧ IsReplyLine (EventLoop.replyBytes (line pieces)) := by
  have ascii : IsAscii pieces.flatten := by
    intro character member
    rw [whole, List.mem_append, List.mem_singleton] at member
    rcases member with inBody | rfl
    · exact (written character inBody).1
    · rfl
  have text := text_line ascii (by simpa [whole] using short)
  refine ⟨by rw [text, whole], body.map Char.toUInt8, ?_, ?_⟩
  · rw [EventLoop.replyBytes, text, bytes_of_isAscii ascii, whole, List.map_append]
    rfl
  · intro inBody
    obtain ⟨character, member, same⟩ := List.mem_map.mp inBody
    exact (written character member).2 same

/-- The answer to a line that switches announcements, in full. -/
theorem okReply_written : okReply.text = "OK\n" ∧ IsReplyLine (EventLoop.replyBytes okReply) := by
  refine @isReplyLine_line [['O', 'K', '\n']] ['O', 'K'] rfl (by decide) ?_
  rw [List.forall_mem_cons, List.forall_mem_singleton]
  exact ⟨by decide, by decide⟩

/-- The answer to a line that was not understood, in full. -/
theorem errorReply_written : errorReply.text = "ER\n" ∧ IsReplyLine (EventLoop.replyBytes errorReply) := by
  refine @isReplyLine_line [['E', 'R', '\n']] ['E', 'R'] rfl (by decide) ?_
  rw [List.forall_mem_cons, List.forall_mem_singleton]
  exact ⟨by decide, by decide⟩

/-- The answer to a call that succeeded, in full. -/
theorem statusReply_written (packet : Packet) :
    (statusReply packet).text = String.ofList
        ('R' :: 'S' :: HexPairs.encode (packet.address :: packet.command :: packet.status.items) ++ ['\n']) ∧
      IsReplyLine (EventLoop.replyBytes (statusReply packet)) := by
  have fits := packet.status.fits
  apply isReplyLine_line
  · simp [HexPairs.encode, List.flatMap_def]
  · simp only [List.length_cons, HexPairs.length_encode, maxReply]
    omega
  · rw [List.forall_mem_cons, List.forall_mem_cons]
    exact ⟨by decide, by decide, fun _ => HexPairs.encode_written⟩

/-- The answer to a call that failed, in full. -/
theorem failureReply_written (status : Status) :
    (failureReply status).text = String.ofList ('C' :: 'E' :: HexPairs.pair status.code ++ ['\n']) ∧
      IsReplyLine (EventLoop.replyBytes (failureReply status)) := by
  apply isReplyLine_line
  · simp
  · simp [maxReply, maxParams]
  · rw [List.forall_mem_cons, List.forall_mem_cons]
    exact ⟨by decide, by decide, fun _ => HexPairs.pair_written⟩

/-- The announcement of an interrupt, in full. -/
theorem notice_written (interrupt : Interrupt) :
    (notice interrupt).text = String.ofList ('E' :: 'I' :: HexPairs.encode
        [interrupt.address, interrupt.reason.1, interrupt.reason.2.1, interrupt.reason.2.2] ++ ['\n']) ∧
      IsReplyLine (EventLoop.replyBytes (notice interrupt)) := by
  apply isReplyLine_line
  · simp [HexPairs.encode]
  · simp [maxReply, maxParams]
  · rw [List.forall_mem_cons, List.forall_mem_cons]
    exact ⟨by decide, by decide, fun _ => HexPairs.encode_written⟩

end Monitor

/-- Whatever a monitor sends, the answer is one line. -/
theorem Service.isReplyLine_answerLine (controller : Controller) (report : Bool) (line : List Char) :
    IsReplyLine (EventLoop.replyBytes (answerLine controller report line).reply) := by
  unfold answerLine
  split
  · dsimp only
    split
    · dsimp only
      exact (Monitor.statusReply_written _).2
    · dsimp only
      exact (Monitor.failureReply_written _).2
  · exact Monitor.okReply_written.2
  · exact Monitor.okReply_written.2
  · exact Monitor.errorReply_written.2

end NodeBus
