import Mathlib
import NodeBus.Proofs.CommandFrame
import NodeBus.Proofs.WireTokens

/-!
# Escaping into a limited buffer

Escaping a body and undoing it both append to a buffer that may be partly filled, and stop where it is full.
What they leave is told without the buffer: `Escape.escaped` is the whole escaped body, `Escape.decoded` all
that the tokens of some data carry, and the buffer keeps what fits (`stuff_eq`, `unstuff_eq`). Every escaped
body is read back as it was, from literals alone (`tokens_escaped_body`).
-/
namespace NodeBus.Escape

/-- The bytes that the complete tokens of some data carry. -/
def decoded (data : List UInt8) : List UInt8 := (tokens data).map Token.byte

instance (data : List UInt8) : Decidable (EndsEscaped data) :=
  inferInstanceAs (Decidable (data = spell (tokens data) ++ [subst]))

theorem not_endsEscaped_nil : ¬ EndsEscaped [] := by decide

theorem endsEscaped_dangling : EndsEscaped [subst] := by decide

theorem endsEscaped_escaped (byte : UInt8) (rest : List UInt8) :
    EndsEscaped (subst :: byte :: rest) ↔ EndsEscaped rest := by
  simp [EndsEscaped, Token.spelled]

theorem endsEscaped_plain {byte : UInt8} (unmarked : byte ≠ subst) (rest : List UInt8) :
    EndsEscaped (byte :: rest) ↔ EndsEscaped rest := by
  simp [EndsEscaped, tokens_plain unmarked, Token.spelled]

@[simp] theorem decoded_nil : decoded [] = [] := rfl

@[simp] theorem decoded_dangling : decoded [subst] = [] := by
  simp [decoded]

@[simp] theorem decoded_escaped_cons (byte : UInt8) (rest : List UInt8) :
    decoded (subst :: byte :: rest) = byte :: decoded rest := by
  simp [decoded, Token.byte]

theorem decoded_plain_cons {byte : UInt8} (unmarked : byte ≠ subst) (rest : List UInt8) :
    decoded (byte :: rest) = byte :: decoded rest := by
  simp [decoded, tokens_plain unmarked, Token.byte]

theorem length_decoded_le (data : List UInt8) : (decoded data).length ≤ data.length := by
  fun_induction tokens data with
  | case1 => exact Nat.le_refl 0
  | case2 byte rest unmarked ih =>
    rw [decoded_plain_cons unmarked]
    exact Nat.succ_le_succ ih
  | case3 byte marked =>
    have escape : byte = subst := not_not.mp marked
    simp [escape]
  | case4 byte marked next rest ih =>
    have escape : byte = subst := not_not.mp marked
    rw [escape, decoded_escaped_cons]
    simp only [List.length_cons]
    omega

/-! ### What a buffer keeps -/

/-- What a buffer of limited capacity keeps of some bytes, and what comes of it. -/
def kept (capacity : Nat) (bytes : List UInt8) (otherwise : Option Fault) : Filled where
  buffer := bytes.take capacity
  fault := if capacity < bytes.length then some .overflow else otherwise

theorem kept_of_fits {capacity : Nat} {bytes : List UInt8} (fits : bytes.length ≤ capacity)
    (otherwise : Option Fault) : kept capacity bytes otherwise = { buffer := bytes, fault := otherwise } := by
  simp [kept, fits, Nat.not_lt.mpr fits]

theorem kept_of_full {capacity : Nat} {buffer : List UInt8} (full : buffer.length = capacity)
    (byte : UInt8) (rest : List UInt8) (otherwise : Option Fault) :
    kept capacity (buffer ++ byte :: rest) otherwise = { buffer, fault := some .overflow } := by
  simp [kept, ← full]

/-- A buffer that all of it did not fit into is no buffer without a fault. -/
theorem fits_of_kept {capacity : Nat} {bytes buffer : List UInt8} {otherwise : Option Fault}
    (done : kept capacity bytes otherwise = { buffer }) :
    bytes.length ≤ capacity ∧ buffer = bytes ∧ otherwise = none := by
  by_cases fits : bytes.length ≤ capacity
  · rw [kept_of_fits fits, Filled.mk.injEq] at done
    exact ⟨fits, done.1.symm, done.2⟩
  · have overflow := congrArg Filled.fault done
    simp [kept, Nat.lt_of_not_le fits] at overflow

theorem store?_of_full {capacity : Nat} {buffer : List UInt8} (full : buffer.length = capacity)
    (byte : UInt8) : store? capacity buffer byte = none := by
  simp [store?, full]

/-! ### Undoing escapes -/

theorem unstuff_plain {byte : UInt8} (unmarked : byte ≠ subst) (capacity : Nat) (buffer rest : List UInt8) :
    unstuff capacity buffer (byte :: rest) =
      match store? capacity buffer byte with
      | none => { buffer, fault := some .overflow }
      | some longer => unstuff capacity longer rest := by
  cases rest with
  | nil => cases stored : store? capacity buffer byte <;> simp [unstuff, unmarked, stored]
  | cons next rest => cases stored : store? capacity buffer byte <;> simp [unstuff, unmarked, stored]

/-- Undoing escapes appends the byte of each token, as far as there is room. -/
theorem unstuff_eq (capacity : Nat) (buffer data : List UInt8) (fits : buffer.length ≤ capacity) :
    unstuff capacity buffer data =
      kept capacity (buffer ++ decoded data) (if EndsEscaped data then some .framing else none) := by
  fun_induction tokens data generalizing buffer with
  | case1 => simp [unstuff, kept_of_fits, fits, not_endsEscaped_nil]
  | case2 byte rest unmarked ih =>
    rw [unstuff_plain unmarked, decoded_plain_cons unmarked]
    simp only [endsEscaped_plain unmarked]
    rcases Nat.eq_or_lt_of_le fits with full | room
    · rw [store?_of_full full, kept_of_full full]
    · rw [store?_of_room _ _ _ room]
      simpa using ih (buffer ++ [byte]) (by simpa using room)
  | case3 byte marked =>
    have escape : byte = subst := not_not.mp marked
    simp [unstuff, escape, kept_of_fits, fits, endsEscaped_dangling]
  | case4 byte marked next rest ih =>
    have escape : byte = subst := not_not.mp marked
    subst escape
    rw [decoded_escaped_cons]
    simp only [endsEscaped_escaped, unstuff, if_true]
    rcases Nat.eq_or_lt_of_le fits with full | room
    · rw [store?_of_full full, kept_of_full full]
    · rw [store?_of_room _ _ _ room]
      simpa using ih (buffer ++ [next]) (by simpa using room)

/-- Undoing escapes succeeds exactly if nothing is left of an escape and all of it fits. -/
theorem unstuff_append_iff {capacity : Nat} {buffer : List UInt8} (fits : buffer.length ≤ capacity)
    (data body : List UInt8) :
    unstuff capacity buffer data = { buffer := buffer ++ body } ↔
      ¬ EndsEscaped data ∧ body = decoded data ∧ buffer.length + body.length ≤ capacity := by
  rw [unstuff_eq capacity buffer data fits]
  constructor
  · intro done
    obtain ⟨room, same, whole⟩ := fits_of_kept done
    obtain rfl := List.append_cancel_left same
    exact ⟨by simpa using whole, rfl, by rwa [List.length_append] at room⟩
  · intro decodes
    obtain ⟨whole, same, room⟩ := decodes
    rw [← same, kept_of_fits (by rwa [List.length_append]), if_neg whole]

theorem unstuff_eq_iff (capacity : Nat) (data body : List UInt8) :
    unstuff capacity [] data = { buffer := body } ↔
      ¬ EndsEscaped data ∧ body = decoded data ∧ body.length ≤ capacity := by
  simpa using unstuff_append_iff (show ([] : List UInt8).length ≤ capacity from Nat.zero_le capacity) data body

/-! ### Escaping -/

/-- Escaping appends the escaped body, as far as there is room. -/
theorem stuff_eq (capacity : Nat) (buffer body : List UInt8) (fits : buffer.length ≤ capacity) :
    stuff capacity buffer body = kept capacity (buffer ++ escaped body) none := by
  induction body generalizing buffer with
  | nil => simp [stuff, escaped, kept_of_fits, fits]
  | cons byte rest ih =>
    by_cases needed : needsEscape byte
    · simp only [stuff, escaped, needed, if_true]
      rcases Nat.eq_or_lt_of_le fits with full | room
      · rw [store?_of_full full, kept_of_full full]
      · -- the escape byte fits, and its partner may be the one that does not
        have marked : (buffer ++ [subst]).length ≤ capacity := by simpa using room
        rw [store?_of_room _ _ _ room, List.append_cons buffer subst (byte :: escaped rest)]
        rcases Nat.eq_or_lt_of_le marked with full | more
        · simp only [store?_of_full full, kept_of_full full]
        · have stored : (buffer ++ [subst] ++ [byte]).length ≤ capacity := by
            rw [List.length_append]
            exact more
          simp only [store?_of_room _ _ _ more]
          rw [ih _ stored, List.append_assoc, List.singleton_append]
    · simp only [stuff, escaped, needed, Bool.false_eq_true, if_false]
      rcases Nat.eq_or_lt_of_le fits with full | room
      · rw [store?_of_full full, kept_of_full full]
      · rw [store?_of_room _ _ _ room]
        simpa using ih (buffer ++ [byte]) (by simpa using room)

/-- Escaping succeeds exactly if the whole escaped body fits. -/
theorem stuff_append_iff {capacity : Nat} {buffer : List UInt8} (fits : buffer.length ≤ capacity)
    (body wire : List UInt8) :
    stuff capacity buffer body = { buffer := buffer ++ wire } ↔
      wire = escaped body ∧ buffer.length + wire.length ≤ capacity := by
  constructor
  · intro done
    rw [stuff_eq capacity buffer body fits] at done
    obtain ⟨room, same, -⟩ := fits_of_kept done
    obtain rfl := List.append_cancel_left same
    exact ⟨rfl, by rwa [List.length_append] at room⟩
  · intro escapes
    obtain ⟨same, room⟩ := escapes
    rw [same] at room ⊢
    exact stuff_of_room capacity buffer body room

theorem stuff_eq_iff (capacity : Nat) (body wire : List UInt8) :
    stuff capacity [] body = { buffer := wire } ↔ wire = escaped body ∧ wire.length ≤ capacity := by
  simpa using stuff_append_iff (show ([] : List UInt8).length ≤ capacity from Nat.zero_le capacity) body wire

/-! ### An escaped body is read back -/

/-- An unescaped byte above the escape byte stands for itself. -/
theorem Token.meaning_plain {byte : UInt8} (unmarked : byte ≠ subst) (notStx : byte ≠ stx)
    (notZero : byte ≠ 0x00) (notOne : byte ≠ 0x01) (notEtx : byte ≠ etx) :
    (Token.plain byte unmarked).meaning = .literal byte := by
  simp [Token.meaning, notStx, notZero, notOne, notEtx]

/-- What an escaped body is read as: literals only, whose bytes are the body. -/
theorem tokens_escaped_body (body : List UInt8) :
    decoded (escaped body) = body ∧ ¬ EndsEscaped (escaped body) ∧
      ∀ token ∈ tokens (escaped body), token.meaning = .literal token.byte := by
  induction body with
  | nil => exact ⟨rfl, not_endsEscaped_nil, by simp [escaped]⟩
  | cons byte rest ih =>
    obtain ⟨same, whole, literals⟩ := ih
    unfold escaped
    split
    case isTrue needed =>
      rw [decoded_escaped_cons, same, endsEscaped_escaped, tokens_escaped]
      refine ⟨rfl, whole, ?_⟩
      intro token among
      rcases List.mem_cons.mp among with first | later
      · rw [first]
        rfl
      · exact literals token later
    case isFalse free =>
      have above : subst < byte := by simpa [needsEscape] using free
      have unmarked : byte ≠ subst := (UInt8.ne_of_lt above).symm
      rw [decoded_plain_cons unmarked, same, endsEscaped_plain unmarked, tokens_plain unmarked]
      refine ⟨rfl, whole, ?_⟩
      intro token among
      rcases List.mem_cons.mp among with first | later
      · rw [first]
        have other : ∀ low, low ≤ subst → byte ≠ low := fun low under same =>
          absurd (same ▸ under) (UInt8.not_le.mpr above)
        exact Token.meaning_plain unmarked (other stx (by decide)) (other 0x00 (by decide))
          (other 0x01 (by decide)) (other etx (by decide))
      · exact literals token later

end NodeBus.Escape
