import Mathlib
import NodeBus.Escape

/-!
# Wire bytes read as tokens

Between markers, and across them, the bytes on the wire are read from left to right as tokens: an escape byte
and the byte behind it are one token, every other byte is one by itself. `Escape.tokens` is that reading. It
loses nothing but an escape byte at the end that nothing follows (`spell_tokens`).

What a token means to a receiver of frames is said by `Token.meaning`; what has been gathered after some
tokens are the literals since the last restart (`gathered`).
-/
namespace NodeBus.Escape

/-- What is read from the wire at a time. -/
inductive Token where
  | escaped (byte : UInt8)
  | plain (byte : UInt8) (unmarked : byte ≠ subst)
  deriving DecidableEq, Repr

namespace Token

/-- The byte that is read, whatever it means. -/
def byte : Token → UInt8
  | .escaped byte => byte
  | .plain byte _ => byte

/-- The bytes a token is read from. -/
def spelled : Token → List UInt8
  | .escaped byte => [subst, byte]
  | .plain byte _ => [byte]

/-- What a token is to a receiver of frames. -/
inductive Meaning where
  | literal (byte : UInt8)
  | restart | nothing | finish
  deriving DecidableEq, Repr

/-- An escaped byte stands for itself, and so does every other byte that is neither a marker nor noise. -/
def meaning : Token → Meaning
  | .escaped byte => .literal byte
  | .plain byte _ =>
    if byte = stx then .restart
    else if byte = 0x00 ∨ byte = 0x01 then .nothing
    else if byte = etx then .finish
    else .literal byte

/-- Only the bare end marker ends a frame. -/
theorem eq_etx_of_finish {byte : UInt8} {unmarked : byte ≠ subst}
    (finish : (plain byte unmarked).meaning = .finish) : byte = etx := by
  simp only [meaning] at finish
  split at finish
  · cases finish
  · split at finish
    · cases finish
    · split at finish
      · assumption
      · cases finish

/-- The byte a token adds to the body of a frame, if it adds one. -/
def literal? (token : Token) : Option UInt8 :=
  match token.meaning with
  | .literal byte => some byte
  | _ => none

end Token

/-! ### Reading -/

/-- The complete tokens of some bytes. -/
def tokens : List UInt8 → List Token
  | [] => []
  | byte :: rest =>
    if unmarked : byte ≠ subst then .plain byte unmarked :: tokens rest
    else
      match rest with
      | [] => []
      | next :: rest => .escaped next :: tokens rest

/-- The bytes some tokens are read from. -/
def spell (read : List Token) : List UInt8 := read.flatMap Token.spelled

/-- The bytes end in an escape byte that protects nothing. -/
def EndsEscaped (data : List UInt8) : Prop := data = spell (tokens data) ++ [subst]

/-- The byte stands somewhere without an escape byte in front of it. -/
def Unescaped (data : List UInt8) (byte : UInt8) : Prop :=
  ∃ unmarked, Token.plain byte unmarked ∈ tokens data

@[simp] theorem spell_nil : spell [] = [] := rfl

@[simp] theorem spell_cons (token : Token) (read : List Token) :
    spell (token :: read) = token.spelled ++ spell read := rfl

@[simp] theorem spell_append (front read : List Token) : spell (front ++ read) = spell front ++ spell read :=
  List.flatMap_append

@[simp] theorem tokens_nil : tokens [] = [] := rfl

@[simp] theorem tokens_dangling : tokens [subst] = [] := by
  simp [tokens]

@[simp] theorem tokens_escaped (byte : UInt8) (rest : List UInt8) :
    tokens (subst :: byte :: rest) = .escaped byte :: tokens rest := by
  simp [tokens]

theorem tokens_plain {byte : UInt8} (unmarked : byte ≠ subst) (rest : List UInt8) :
    tokens (byte :: rest) = .plain byte unmarked :: tokens rest := by
  rw [tokens.eq_def]
  simp [unmarked]

/-- Tokens are read as they are spelled, whatever comes behind them. -/
@[simp] theorem tokens_spell_append (read : List Token) (rest : List UInt8) :
    tokens (spell read ++ rest) = read ++ tokens rest := by
  induction read with
  | nil => rfl
  | cons token read ih =>
    rw [spell_cons, List.append_assoc]
    cases token with
    | escaped byte => simp [Token.spelled, ih]
    | plain byte unmarked => simp [Token.spelled, tokens_plain unmarked, ih]

/-- Reading loses nothing, but for an escape byte at the very end. -/
theorem spell_tokens (data : List UInt8) : data = spell (tokens data) ∨ EndsEscaped data := by
  unfold EndsEscaped
  fun_induction tokens data with
  | case1 => exact .inl rfl
  | case2 byte rest unmarked ih =>
    rcases ih with whole | dangling
    · exact .inl (congrArg (byte :: ·) whole)
    · exact .inr (congrArg (byte :: ·) dangling)
  | case3 byte marked =>
    have escape : byte = subst := not_not.mp marked
    exact .inr (congrArg ([·]) escape)
  | case4 byte marked next rest ih =>
    have escape : byte = subst := not_not.mp marked
    subst escape
    rcases ih with whole | dangling
    · exact .inl (congrArg (subst :: next :: ·) whole)
    · exact .inr (congrArg (subst :: next :: ·) dangling)

/-- Bytes begin with what their first tokens are read from. -/
theorem spell_isPrefix {read : List Token} {data : List UInt8} (first : read <+: tokens data) :
    ∃ rest, spell read ++ rest = data := by
  obtain ⟨later, split⟩ := first
  rcases spell_tokens data with whole | dangling
  · exact ⟨spell later, by rw [← spell_append, split, ← whole]⟩
  · exact ⟨spell later ++ [subst], by rw [← List.append_assoc, ← spell_append, split, ← dangling]⟩

/-- A property that the empty list has is kept by a whole list, or there is a first item that breaks it. -/
theorem kept_or_broken {α : Type} {kept : List α → Prop} (start : kept []) (items : List α) :
    kept items ∨ ∃ front item, front ++ [item] <+: items ∧ kept front ∧ ¬ kept (front ++ [item]) := by
  induction items using List.reverseRecOn with
  | nil => exact .inl start
  | append_singleton items item ih =>
    rcases ih with before | ⟨front, first, early, before, broken⟩
    · by_cases still : kept (items ++ [item])
      · exact .inl still
      · exact .inr ⟨items, item, List.prefix_rfl, before, still⟩
    · exact .inr ⟨front, first, early.trans (List.prefix_append _ _), before, broken⟩

/-! ### What is gathered -/

/-- The literals since the last restart. -/
def gathered (read : List Token) : List UInt8 :=
  (read.rtakeWhile (·.meaning ≠ .restart)).filterMap Token.literal?

theorem gathered_restart (read : List Token) {token : Token} (restart : token.meaning = .restart) :
    gathered (read ++ [token]) = [] := by
  simp [gathered, restart]

theorem gathered_literal (read : List Token) {token : Token} {byte : UInt8}
    (literal : token.meaning = .literal byte) : gathered (read ++ [token]) = gathered read ++ [byte] := by
  simp [gathered, literal, Token.literal?]

theorem gathered_nothing (read : List Token) {token : Token} (nothing : token.meaning = .nothing) :
    gathered (read ++ [token]) = gathered read := by
  simp [gathered, nothing, Token.literal?]

/-- Tokens that leave a receiver inside its frame: none of them ends it, and none is the 22nd literal since the
last restart. -/
structure Open (read : List Token) : Prop where
  unended : ∀ token ∈ read, token.meaning ≠ .finish
  within : ∀ front, front <+: read → (gathered front).length ≤ 21

theorem open_nil : Open [] where
  unended := by simp
  within := by
    intro front first
    rw [List.prefix_nil.mp first]
    exact Nat.zero_le _

theorem Open.init {read : List Token} {token : Token} (stays : Open (read ++ [token])) : Open read where
  unended := fun other among => stays.unended other (List.mem_append_left _ among)
  within := fun front first => stays.within front (first.trans (List.prefix_append _ _))

/-- One more token leaves the receiver inside its frame unless it ends it or finds no room. -/
theorem Open.concat {read : List Token} (before : Open read) {token : Token}
    (goesOn : token.meaning ≠ .finish) (room : (gathered (read ++ [token])).length ≤ 21) :
    Open (read ++ [token]) where
  unended := by
    intro other among
    rcases List.mem_append.mp among with earlier | last
    · exact before.unended other earlier
    · rwa [List.mem_singleton.mp last]
  within := by
    intro front first
    rcases List.prefix_concat_iff.mp first with whole | shorter
    · rwa [whole]
    · exact before.within front shorter

/-- What ends the stay inside a frame: the end token, or a literal behind a full body. -/
theorem Open.broken {read : List Token} (before : Open read) {token : Token} (ended : ¬ Open (read ++ [token])) :
    token.meaning = .finish ∨
      (gathered read).length = 21 ∧ ∃ byte, token.meaning = .literal byte := by
  have most := before.within read List.prefix_rfl
  cases meant : token.meaning with
  | finish => exact .inl rfl
  | restart =>
    refine absurd (before.concat (by simp [meant]) ?_) ended
    rw [gathered_restart read meant]
    exact Nat.zero_le _
  | nothing =>
    refine absurd (before.concat (by simp [meant]) ?_) ended
    rwa [gathered_nothing read meant]
  | literal byte =>
    refine .inr ⟨?_, byte, rfl⟩
    by_contra room
    refine ended (before.concat (by simp [meant]) ?_)
    rw [gathered_literal read meant, List.length_append, List.length_singleton]
    omega

end NodeBus.Escape
