import NodeBus.Proofs.HexDigits

/-!
# Replies can be read back

Every line to a monitor is written in full: its buffer is never short, whatever the packet, and it holds one newline, which
ends it (`IsLineOf`). What is behind the two letters of a status or of a notice are the digits of a call, so that with
the letters of a call in their place the line is read as the bytes it was written from (`parse_asCall`).
-/
namespace NodeBus.Monitor

/-- The reply is this text and a newline, with nothing left out, and it is a single line. -/
structure IsLineOf (reply : Reply) (text : List Char) : Prop where
  whole : reply.text.toList = text ++ ['\n']
  single : '\n' ∉ text
  line : IsReplyLine (EventLoop.replyBytes reply)
  fits : (EventLoop.replyBytes reply).length ≤ 39

/-- The texts of the answers to monitors. -/
inductive IsAnswer : List Char → Prop where
  | status (address command : UInt8) (status : Bounded UInt8 maxParams) :
      IsAnswer ('R' :: 'S' :: HexPairs.upperPairs (address :: command :: status.items))
  | failure (status : Status) : IsAnswer ('C' :: 'E' :: HexPairs.upperPairs [status.code])
  | understood : IsAnswer ['O', 'K']
  | refused : IsAnswer ['E', 'R']

/-- The line of a reply, with the letters of a call for its own. -/
def asCall (reply : Reply) : List Char := 'C' :: 'A' :: reply.text.toList.drop 2

theorem length_replyBytes_le (reply : Reply) : (EventLoop.replyBytes reply).length ≤ 39 := reply.fits

theorem newline_not_mem_upperPairs (bytes : List UInt8) : '\n' ∉ HexPairs.upperPairs bytes := by
  rw [← HexPairs.encode_eq_upperPairs]
  exact fun member => (HexPairs.encode_written member).2 rfl

/-- A line that is two letters and hex pairs. -/
theorem isLineOf_pairs {reply : Reply} {first second : Char} {bytes : List UInt8}
    (written : reply.text = String.ofList (first :: second :: HexPairs.encode bytes ++ ['\n']) ∧
      IsReplyLine (EventLoop.replyBytes reply)) (letters : first ≠ '\n' ∧ second ≠ '\n') :
    IsLineOf reply (first :: second :: HexPairs.upperPairs bytes) where
  whole := by rw [written.1, HexPairs.encode_eq_upperPairs, String.toList_ofList]
  single := by simp [newline_not_mem_upperPairs, letters.1.symm, letters.2.symm]
  line := written.2
  fits := length_replyBytes_le reply

theorem isLineOf_statusReply (packet : Packet) : IsLineOf (statusReply packet)
    ('R' :: 'S' :: HexPairs.upperPairs (packet.address :: packet.command :: packet.status.items)) :=
  isLineOf_pairs (statusReply_written packet) (by decide)

theorem isLineOf_failureReply (status : Status) :
    IsLineOf (failureReply status) ('C' :: 'E' :: HexPairs.upperPairs [status.code]) := by
  apply isLineOf_pairs _ (by decide)
  simpa [HexPairs.encode] using failureReply_written status

theorem isLineOf_notice (interrupt : Interrupt) : IsLineOf (notice interrupt) ('E' :: 'I' :: HexPairs.upperPairs
    [interrupt.address, interrupt.reason.1, interrupt.reason.2.1, interrupt.reason.2.2]) :=
  isLineOf_pairs (notice_written interrupt) (by decide)

theorem isLineOf_okReply : IsLineOf okReply ['O', 'K'] where
  whole := by rw [okReply_written.1]; rfl
  single := by decide
  line := okReply_written.2
  fits := length_replyBytes_le okReply

theorem isLineOf_errorReply : IsLineOf errorReply ['E', 'R'] where
  whole := by rw [errorReply_written.1]; rfl
  single := by decide
  line := errorReply_written.2
  fits := length_replyBytes_le errorReply

/-- Two letters and hex pairs are read back as a call of the bytes they were written from. -/
theorem parse_asCall {reply : Reply} {first second : Char} {address command : UInt8} {params : Bounded UInt8 maxParams}
    (written : IsLineOf reply (first :: second :: HexPairs.upperPairs (address :: command :: params.items))) :
    parse (asCall reply) = .ok (.call { address, command, params }) := by
  let packet : Packet := { address, command, params }
  have spelled := HexPairs.spells_encode (address :: command :: params.items)
  rw [HexPairs.encode_eq_upperPairs] at spelled
  rw [asCall, written.whole]
  exact parse_call packet rfl spelled (by simp [isLineEnd])

/-- Whatever a monitor sends, the answer is one of four forms, written in full. -/
theorem answerLine_isLineOf (controller : Controller) (report : Bool) (line : List Char) :
    ∃ text, IsAnswer text ∧ IsLineOf (Service.answerLine controller report line).reply text := by
  unfold Service.answerLine
  split
  · dsimp only
    split
    · dsimp only
      exact ⟨_, .status .., isLineOf_statusReply _⟩
    · dsimp only
      exact ⟨_, .failure .., isLineOf_failureReply _⟩
  · dsimp only
    exact ⟨_, .understood, isLineOf_okReply⟩
  · dsimp only
    exact ⟨_, .understood, isLineOf_okReply⟩
  · dsimp only
    exact ⟨_, .refused, isLineOf_errorReply⟩

/-- **Lines to monitors are complete, and those that carry bytes are read back as these.** -/
theorem replies_read_back :
    (∀ packet, IsLineOf (statusReply packet)
        ('R' :: 'S' :: HexPairs.upperPairs (packet.address :: packet.command :: packet.status.items)) ∧
      parse (asCall (statusReply packet)) =
        .ok (.call { address := packet.address, command := packet.command, params := packet.status })) ∧
    (∀ controller report line, ∃ text, IsAnswer text ∧
      IsLineOf (Service.answerLine controller report line).reply text) ∧
    ∀ address first second third, IsLineOf (notice { address, reason := (first, second, third) })
        ('E' :: 'I' :: HexPairs.upperPairs [address, first, second, third]) ∧
      parse (asCall (notice { address, reason := (first, second, third) })) =
        .ok (.call { address, command := first, params := ⟨[second, third], by simp [maxParams]⟩ }) := by
  refine ⟨fun packet => ?_, answerLine_isLineOf, fun address first second third => ?_⟩
  · have written := isLineOf_statusReply packet
    exact ⟨written, parse_asCall written⟩
  · have written := isLineOf_notice { address, reason := (first, second, third) }
    exact ⟨written, parse_asCall written⟩

end NodeBus.Monitor
