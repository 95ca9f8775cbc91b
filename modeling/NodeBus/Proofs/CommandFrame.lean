import Mathlib
import NodeBus.Frame
import NodeBus.Proofs.Sealing

/-!
# Command frames always fit

Every limit on the way from a packet to its frame is large enough: the parameters of a packet are bounded,
so the body with either checksum fits (`commandBody?_eq`), and even a body whose every byte is escaped
fits between its markers (`encode?_of_fits`). Encoding a command therefore never fails.
-/
namespace NodeBus

namespace Escape

/-- A body as it stands between the markers, the escape byte before each byte that needs it. -/
def escaped : List UInt8 → List UInt8
  | [] => []
  | byte :: rest => if needsEscape byte then subst :: byte :: escaped rest else byte :: escaped rest

theorem length_escaped_le (body : List UInt8) : (escaped body).length ≤ 2 * body.length := by
  induction body with
  | nil => simp [escaped]
  | cons byte rest ih =>
    unfold escaped
    split <;> simp only [List.length_cons] <;> omega

theorem store?_of_room (capacity : Nat) (buffer : List UInt8) (byte : UInt8)
    (room : buffer.length < capacity) : store? capacity buffer byte = some (buffer ++ [byte]) := by
  simp [store?, room]

/-- With room for all of it, escaping appends the whole escaped body. -/
theorem stuff_of_room (capacity : Nat) (buffer body : List UInt8)
    (room : buffer.length + (escaped body).length ≤ capacity) :
    stuff capacity buffer body = { buffer := buffer ++ escaped body } := by
  induction body generalizing buffer with
  | nil => simp [stuff, escaped]
  | cons byte rest ih =>
    by_cases needed : needsEscape byte
    · simp only [escaped, needed, if_true, List.length_cons] at room
      have marked := store?_of_room capacity buffer subst (by omega)
      have stored := store?_of_room capacity (buffer ++ [subst]) byte (by simp; omega)
      simp only [stuff, needed, if_true, marked, stored]
      rw [ih _ (by simp; omega)]
      simp [escaped, needed]
    · simp only [escaped, needed, Bool.false_eq_true, if_false, List.length_cons] at room
      have stored := store?_of_room capacity buffer byte (by omega)
      simp only [stuff, needed, Bool.false_eq_true, if_false, stored]
      rw [ih _ (by simp; omega)]
      simp [escaped, needed]

end Escape

namespace Frame

/-- Every body within its limit has a frame. -/
theorem encode?_of_fits (body : List UInt8) (fits : body.length ≤ maxBody) :
    encode? body = some (Escape.stx :: Escape.escaped body ++ [Escape.etx]) := by
  have escapes := Escape.length_escaped_le body
  have limit : maxLength = 2 * maxBody + 2 := rfl
  have stuffed := Escape.stuff_of_room maxLength [Escape.stx] body (by simp; omega)
  have closed := Escape.store?_of_room maxLength ([Escape.stx] ++ Escape.escaped body) Escape.etx
    (by simp; omega)
  simp only [encode?, stuffed, closed]
  simp

/-- The header byte, address, command and parameters of a command, before the checksum. -/
def commandFront (variant : Variant) (packet : Packet) : List UInt8 :=
  (Header.command variant).toByte :: packet.address :: packet.command :: packet.params.items

theorem length_commandBody_le (variant : Variant) (packet : Packet) :
    (commandFront variant packet ++ variant.checkBytes (commandFront variant packet)).length ≤ maxBody := by
  have params := packet.params.fits
  have check := variant.length_le_two
  simp only [commandFront, List.length_append, List.length_cons, Variant.length_checkBytes, maxBody]
  omega

theorem commandBody?_eq (variant : Variant) (packet : Packet) :
    commandBody? variant packet =
      some (commandFront variant packet ++ variant.checkBytes (commandFront variant packet)) := by
  have fits := length_commandBody_le variant packet
  rw [List.length_append] at fits
  exact if_pos fits

/-- The frame that a command is written as. -/
def commandFrame (variant : Variant) (packet : Packet) : List UInt8 :=
  Escape.stx :: Escape.escaped
    (commandFront variant packet ++ variant.checkBytes (commandFront variant packet)) ++ [Escape.etx]

/-- Encoding a command never fails. -/
theorem encodeCommand?_eq (variant : Variant) (packet : Packet) :
    encodeCommand? variant packet = some (commandFrame variant packet) := by
  rw [encodeCommand?, commandBody?_eq, Option.bind_some,
    encode?_of_fits _ (length_commandBody_le variant packet), commandFrame]

end Frame

end NodeBus
