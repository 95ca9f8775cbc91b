import Mathlib
import NodeBus.Proofs.CommandFrame
import NodeBus.Proofs.Deframing

/-!
# Command frames arrive as they were sent

`Escape.Guarded` says how bytes may stand between two markers, without reference to the encoder: a low byte
only behind an escape byte of its own. Every escaped body stands like that (`Escape.guarded_escaped`), and
a receiver takes it to the end marker and no further (`Deframer.run_frame`).

A receiver that is asked after every byte (`Deframer.feedAll`) says the same as a run that stops at the
first answer, as long as that is the last byte (`feedAll_of_run`). `commands_arrive` draws both together
for the frames of commands; that no two commands share a frame comes from what arrives.
-/
namespace NodeBus

/-- A list with a limit is told by its items. -/
theorem Bounded.eq_of_items {α : Type} {capacity : Nat} {one other : Bounded α capacity}
    (same : one.items = other.items) : one = other := by
  cases one
  cases other
  simpa using same

namespace Escape

/-- A low byte stands behind an escape byte of its own, and any other byte stands alone. -/
inductive Guarded : List UInt8 → Prop
  | nil : Guarded []
  | marked {byte : UInt8} {rest : List UInt8} (low : byte ≤ subst) (guarded : Guarded rest) :
      Guarded (subst :: byte :: rest)
  | plain {byte : UInt8} {rest : List UInt8} (above : subst < byte) (guarded : Guarded rest) :
      Guarded (byte :: rest)

theorem guarded_escaped (body : List UInt8) : Guarded (escaped body) := by
  induction body with
  | nil => exact .nil
  | cons byte rest ih =>
    unfold escaped
    split
    case isTrue needed => exact .marked (by simpa [needsEscape] using needed) ih
    case isFalse free => exact .plain (by simpa [needsEscape] using free) ih

end Escape

namespace Deframer

/-! ### A frame is taken to its end -/

/-- A frame that fits is taken to its end and completed with its body. -/
theorem run_escaped (gathered body : List UInt8) (room : gathered.length + body.length ≤ Frame.maxBody) :
    run { phase := .inside, body := gathered, started := true } (Escape.escaped body ++ [Escape.etx]) =
      { deframer := { phase := .inside, body := gathered ++ body, started := true }
        progress := .complete
        taken := (Escape.escaped body).length + 1 } := by
  induction body generalizing gathered with
  | nil => simp [Escape.escaped, run, feed, Escape.etx, Escape.stx, Escape.subst]
  | cons byte rest ih =>
    rw [List.length_cons] at room
    have free : gathered.length < Frame.maxBody := by omega
    have later := ih (gathered ++ [byte]) (by simp; omega)
    rw [List.append_assoc, List.singleton_append] at later
    by_cases needed : Escape.needsEscape byte
    · have marked : feed { phase := .inside, body := gathered, started := true } Escape.subst =
          ({ phase := .escaped, body := gathered, started := true }, .more) := rfl
      have stored : feed { phase := .escaped, body := gathered, started := true } byte =
          ({ phase := .inside, body := gathered ++ [byte], started := true }, .more) := by
        simp [feed, store, Escape.store?, free]
      simp only [Escape.escaped, needed, if_true, List.cons_append]
      rw [run_cons_more _ _ _ _ marked, run_cons_more _ _ _ _ stored, later]
      rfl
    · have above : Escape.subst < byte := by simpa [Escape.needsEscape] using needed
      have stored : feed { phase := .inside, body := gathered, started := true } byte =
          ({ phase := .inside, body := gathered ++ [byte], started := true }, .more) := by
        have notSubst : byte ≠ Escape.subst := (UInt8.ne_of_lt above).symm
        have notStx : byte ≠ Escape.stx := (UInt8.ne_of_lt (UInt8.lt_trans (by decide) above)).symm
        have notEtx : byte ≠ Escape.etx := (UInt8.ne_of_lt (UInt8.lt_trans (by decide) above)).symm
        simp [feed, notSubst, notStx, notEtx, above, store, Escape.store?, free]
      simp only [Escape.escaped, needed, Bool.false_eq_true, if_false, List.cons_append]
      rw [run_cons_more _ _ _ _ stored, later]
      rfl

theorem run_frame (body : List UInt8) (fits : body.length ≤ Frame.maxBody) :
    run {} (Escape.stx :: Escape.escaped body ++ [Escape.etx]) =
      { deframer := { phase := .inside, body, started := true }
        progress := .complete
        taken := (Escape.stx :: Escape.escaped body ++ [Escape.etx]).length } := by
  have marked : feed {} Escape.stx = ({ phase := .inside, started := true }, .more) := rfl
  rw [List.cons_append, run_cons_more _ _ _ _ marked, run_escaped [] body (by simpa using fits)]
  simp

/-! ### Asked after every byte -/

/-- Feeds all the bytes whatever the answers are, and lists the answers. -/
def feedAll (deframer : Deframer) : List UInt8 → Deframer × List Progress
  | [] => (deframer, [])
  | byte :: rest =>
    let (next, progress) := deframer.feed byte
    let (last, answers) := next.feedAll rest
    (last, progress :: answers)

theorem feedAll_cons (deframer next : Deframer) (byte : UInt8) (rest : List UInt8) (progress : Progress)
    (fed : deframer.feed byte = (next, progress)) :
    deframer.feedAll (byte :: rest) = ((next.feedAll rest).1, progress :: (next.feedAll rest).2) := by
  rw [feedAll, fed]

/-- A run that ends with the last byte was told to go on after every other. -/
theorem feedAll_of_run (deframer : Deframer) (bytes : List UInt8)
    (whole : (deframer.run bytes).taken = bytes.length) (ended : (deframer.run bytes).progress ≠ .more) :
    deframer.feedAll bytes = ((deframer.run bytes).deframer,
      List.replicate (bytes.length - 1) .more ++ [(deframer.run bytes).progress]) := by
  induction bytes generalizing deframer with
  | nil => exact absurd rfl ended
  | cons byte rest ih =>
    rcases fed : deframer.feed byte with ⟨next, progress⟩
    rw [feedAll_cons _ _ _ _ _ fed]
    by_cases goes : progress = .more
    · subst goes
      rw [run_cons_more _ _ _ _ fed] at whole ended ⊢
      have later := ih next (by simpa using whole) ended
      have something : rest.length ≠ 0 := by
        intro nothing
        rw [List.length_eq_zero_iff.mp nothing] at ended
        exact ended rfl
      have count : (byte :: rest).length - 1 = (rest.length - 1) + 1 := by
        rw [List.length_cons]
        omega
      rw [later, count, List.replicate_succ, List.cons_append]
    · rw [run_cons_ended _ _ _ _ _ fed goes] at whole ⊢
      have last : rest = [] := List.length_eq_zero_iff.mp (by simpa using whole)
      subst last
      simp [feedAll]

end Deframer

namespace Frame

/-! ### Commands -/

/-- A fresh deframer completes the frame of a command with its body. -/
theorem run_commandFrame (variant : Variant) (packet : Packet) :
    Deframer.run {} (commandFrame variant packet) =
      { deframer :=
          { phase := .inside
            body := commandFront variant packet ++ variant.checkBytes (commandFront variant packet)
            started := true }
        progress := .complete
        taken := (commandFrame variant packet).length } :=
  Deframer.run_frame _ (length_commandBody_le variant packet)

theorem feedAll_commandFrame (variant : Variant) (packet : Packet) :
    (Deframer.feedAll {} (commandFrame variant packet)).1.body =
        commandFront variant packet ++ variant.checkBytes (commandFront variant packet) ∧
      (Deframer.feedAll {} (commandFrame variant packet)).2 =
        List.replicate ((commandFrame variant packet).length - 1) .more ++ [.complete] := by
  have run := run_commandFrame variant packet
  have fed := Deframer.feedAll_of_run {} (commandFrame variant packet) (by rw [run]) (by simp [run])
  rw [fed, run]
  exact ⟨rfl, rfl⟩

/-- What arrives tells the variant, and everything of the packet that is sent. -/
theorem commandBody_inj {one other : Variant} {packet packet' : Packet}
    (same : commandFront one packet ++ one.checkBytes (commandFront one packet) =
      commandFront other packet' ++ other.checkBytes (commandFront other packet')) :
    one = other ∧ packet.address = packet'.address ∧ packet.command = packet'.command ∧
      packet.params = packet'.params := by
  have leading : (Header.command one).toByte = (Header.command other).toByte :=
    (List.cons_eq_cons.mp same).1
  have header := congrArg Header.ofByte? leading
  rw [Header.ofByte?_toByte, Header.ofByte?_toByte, Option.some.injEq, Header.command.injEq] at header
  subst header
  have front := (List.append_inj' same (by simp only [Variant.length_checkBytes])).1
  simp only [commandFront, List.cons.injEq, true_and] at front
  obtain ⟨address, command, items⟩ := front
  exact ⟨rfl, address, command, Bounded.eq_of_items items⟩

/-- The byte that leads a command with this checksum. -/
def leadingByte : Variant → UInt8
  | .crc8 => 0x01
  | .crc16 => 0x05

/-- What becomes of the frame of a command: how it stands on the wire, and what a fresh deframer makes
of it. -/
structure Arrives (variant : Variant) (packet : Packet) (frame : List UInt8) : Prop where
  encoded : encodeCommand? variant packet = some frame
  length_le : frame.length ≤ 44
  guarded : ∃ inner, frame = Escape.stx :: inner ++ [Escape.etx] ∧ Escape.Guarded inner
  /-- Only the last byte brings the frame to its end. -/
  answers : (Deframer.feedAll {} frame).2 = List.replicate (frame.length - 1) .more ++ [.complete]
  body : (Deframer.feedAll {} frame).1.body =
    let front := leadingByte variant :: packet.address :: packet.command :: packet.params.items
    front ++ variant.checkBytes front
  short : variant = .crc8 → Checksum.crc8Ok (Deframer.feedAll {} frame).1.body = true
  long : variant = .crc16 → Checksum.crc16Ok (Deframer.feedAll {} frame).1.body = true
  /-- It is the frame of no other command. -/
  distinct : ∀ (other : Variant) (packet' : Packet), encodeCommand? other packet' = some frame →
    other = variant ∧ packet'.address = packet.address ∧ packet'.command = packet.command ∧
      packet'.params = packet.params

/-- **Commands arrive as they were sent**, in both variants. -/
theorem commands_arrive (variant : Variant) (packet : Packet) :
    ∃ frame, Arrives variant packet frame := by
  obtain ⟨body, answers⟩ := feedAll_commandFrame variant packet
  have fits := length_commandBody_le variant packet
  have escapes := Escape.length_escaped_le
    (commandFront variant packet ++ variant.checkBytes (commandFront variant packet))
  have whole : variant.passes (Deframer.feedAll {} (commandFrame variant packet)).1.body = true := by
    rw [body, Variant.passes_iff_sealed]
    exact ⟨_, rfl⟩
  refine ⟨commandFrame variant packet, ?_⟩
  exact {
    encoded := encodeCommand?_eq variant packet
    length_le := by
      unfold commandFrame
      simp only [maxBody, maxParams] at fits
      simp only [List.length_append, List.length_cons, List.length_nil] at escapes fits ⊢
      omega
    guarded := ⟨_, rfl, Escape.guarded_escaped _⟩
    answers
    body := by
      rw [body]
      cases variant <;> rfl
    short := by
      intro used
      subst used
      exact whole
    long := by
      intro used
      subst used
      exact whole
    distinct := by
      intro other packet' shared
      rw [encodeCommand?_eq, Option.some.injEq] at shared
      have arrived := (feedAll_commandFrame other packet').1
      rw [shared, body] at arrived
      exact commandBody_inj arrived.symm }

end Frame

end NodeBus
