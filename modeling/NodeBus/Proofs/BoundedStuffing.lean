import NodeBus.Proofs.Escaping
import NodeBus.Proofs.FrameRoundTrip

/-!
# Escaping and undoing it are inverse

Behind whatever a buffer holds already, escaping and undoing it leave what fits of the whole result, and say
whether that was all (`StuffingLaw.escapes`, `StuffingLaw.decodes`). Undoing escapes inverts escaping on every
body; escaping inverts undoing on exactly the data that is guarded (`escaped_decoded_eq_iff`), since other data
holds a byte that escaping would have marked, or marks one that it would have left alone.
-/
namespace NodeBus.Escape

/-! ### The data that escaping gives -/

@[simp] theorem escaped_cons_low {byte : UInt8} (low : byte ≤ subst) (rest : List UInt8) :
    escaped (byte :: rest) = subst :: byte :: escaped rest := by
  simp [escaped, needsEscape, low]

@[simp] theorem escaped_cons_above {byte : UInt8} (above : subst < byte) (rest : List UInt8) :
    escaped (byte :: rest) = byte :: escaped rest := by
  simp [escaped, needsEscape, UInt8.not_le.mpr above]

/-- Guarded data is what its bytes are escaped to, and no other data is. -/
theorem escaped_decoded_eq_iff (data : List UInt8) : escaped (decoded data) = data ↔ Guarded data := by
  constructor
  · intro same
    rw [← same]
    exact guarded_escaped _
  · intro guarded
    induction guarded with
    | nil => rfl
    | marked low guarded ih => rw [decoded_escaped_cons, escaped_cons_low low, ih]
    | plain above guarded ih =>
      have unmarked := (UInt8.ne_of_lt above).symm
      rw [decoded_plain_cons unmarked, escaped_cons_above above, ih]

theorem Guarded.not_endsEscaped {data : List UInt8} (guarded : Guarded data) : ¬ EndsEscaped data := by
  have same := (escaped_decoded_eq_iff data).mpr guarded
  rw [← same]
  exact (tokens_escaped_body (decoded data)).2.1

/-! ### Behind a buffer -/

/-- What escaping a body leaves behind a buffer. -/
structure Escapes (capacity : Nat) (buffer body : List UInt8) : Prop where
  fits : buffer.length + (escaped body).length ≤ capacity →
    stuff capacity buffer body = { buffer := buffer ++ escaped body }
  overflows : capacity < buffer.length + (escaped body).length →
    stuff capacity buffer body =
      { buffer := (buffer ++ escaped body).take capacity, fault := some .overflow }

/-- What undoing the escapes of some data leaves behind a buffer. What does not fit is reported before an
escape without its byte. -/
structure Decodes (capacity : Nat) (buffer data : List UInt8) : Prop where
  buffer_eq : (unstuff capacity buffer data).buffer = (buffer ++ decoded data).take capacity
  overflow : (unstuff capacity buffer data).fault = some .overflow ↔
    capacity < buffer.length + (decoded data).length
  framing : (unstuff capacity buffer data).fault = some .framing ↔
    buffer.length + (decoded data).length ≤ capacity ∧ EndsEscaped data
  done : (unstuff capacity buffer data).fault = none ↔
    buffer.length + (decoded data).length ≤ capacity ∧ ¬ EndsEscaped data

/-- Escaping and its inverse behind what a buffer holds already. -/
structure StuffingLaw {capacity : Nat} (buffer : Bounded UInt8 capacity) : Prop where
  escapes : ∀ body, Escapes capacity buffer.items body
  decodes : ∀ data, Decodes capacity buffer.items data
  /-- What was escaped is read back, behind any buffer with room for it. -/
  recovers : ∀ body wire, stuff capacity buffer.items body = { buffer := buffer.items ++ wire } →
    ∀ {room : Nat} (other : Bounded UInt8 room), other.items.length + body.length ≤ room →
      unstuff room other.items wire = { buffer := other.items ++ body }
  /-- Data is read and escaped again to itself exactly if it is guarded. -/
  restores : ∀ data, buffer.items.length + (decoded data).length ≤ capacity →
    ∀ {room : Nat} (other : Bounded UInt8 room), other.items.length + data.length ≤ room →
      ((∃ body, unstuff capacity buffer.items data = { buffer := buffer.items ++ body } ∧
          stuff room other.items body = { buffer := other.items ++ data }) ↔ Guarded data)

theorem escapes_behind {capacity : Nat} (buffer : Bounded UInt8 capacity) (body : List UInt8) :
    Escapes capacity buffer.items body where
  fits := stuff_of_room capacity buffer.items body
  overflows := by
    intro long
    rw [stuff_eq capacity _ body buffer.fits]
    simp [kept, long]

theorem decodes_behind {capacity : Nat} (buffer : Bounded UInt8 capacity) (data : List UInt8) :
    Decodes capacity buffer.items data := by
  have left := unstuff_eq capacity _ data buffer.fits
  have fault : (unstuff capacity buffer.items data).fault =
      if capacity < buffer.items.length + (decoded data).length then some .overflow
      else if EndsEscaped data then some .framing else none := by
    rw [left, kept, List.length_append]
  constructor
  case buffer_eq => rw [left, kept]
  case overflow =>
    rw [fault]
    split <;> simp_all
  case framing =>
    rw [fault]
    split <;> simp_all
  case done =>
    rw [fault]
    split <;> simp_all

/-- **Stuffing is bounded**, and undone where everything fits. -/
theorem stuffing_bounded {capacity : Nat} (buffer : Bounded UInt8 capacity) : StuffingLaw buffer where
  escapes := escapes_behind buffer
  decodes := decodes_behind buffer
  recovers := by
    intro body wire done room other fits
    obtain ⟨rfl, -⟩ := (stuff_append_iff buffer.fits body wire).mp done
    obtain ⟨same, whole, -⟩ := tokens_escaped_body body
    exact (unstuff_append_iff other.fits _ body).mpr ⟨whole, same.symm, fits⟩
  restores := by
    intro data fits room other enough
    constructor
    · intro restored
      obtain ⟨body, read, written⟩ := restored
      obtain ⟨-, rfl, -⟩ := (unstuff_append_iff buffer.fits data body).mp read
      obtain ⟨same, -⟩ := (stuff_append_iff other.fits _ data).mp written
      exact (escaped_decoded_eq_iff data).mp same.symm
    · intro guarded
      have same := (escaped_decoded_eq_iff data).mpr guarded
      refine ⟨decoded data, (unstuff_append_iff buffer.fits data _).mpr ⟨guarded.not_endsEscaped, rfl, fits⟩, ?_⟩
      exact (stuff_append_iff other.fits _ data).mpr ⟨same.symm, enough⟩

/-- Behind two bytes in a buffer of four, the escape byte of the second low byte fits and the byte does not. -/
example : stuff 4 [0x41, 0x42] [0x43, 0x02] =
    { buffer := [0x41, 0x42, 0x43, subst], fault := some .overflow } := by decide

end NodeBus.Escape
