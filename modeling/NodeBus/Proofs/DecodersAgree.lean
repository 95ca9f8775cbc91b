import Mathlib
import NodeBus.Proofs.DeframingGrammar
import NodeBus.Proofs.Escaping
import NodeBus.Proofs.InterruptFrames

/-!
# Three decoders of the escape format

Escapes are undone in three places: at once over a whole payload (`Escape.unstuff`), while a burst of idle
input is collected, and while an answer is deframed. All three read the same tokens. The batch decoder keeps
the byte of each, the collector does so until its burst is full (`Controller.collected_cases`), and the
deframer refuses a body beyond its own limit. `decoders_agree` draws this together, with the escaping that all
three undo.
-/
namespace NodeBus
open Escape

namespace Controller

/-! ### The collector reads tokens -/

/-- The burst inside a frame of which some bytes are collected. -/
def collecting (bytes : List UInt8) : Burst := { phase := .frame, bytes }

/-- What the collector makes of one more byte of the frame. -/
def collectedNext (bytes : List UInt8) : Hearing (Burst × Bool) Burst :=
  if bytes.length = 256 then .enough (collecting bytes, false) else .more (collecting bytes)

theorem hearBurst_escaped {bytes : List UInt8} (room : bytes.length < 256) (byte : UInt8) :
    hearBurst { phase := .escaped, bytes } byte = collectedNext (bytes ++ [byte]) := by
  have stored := Burst.store_of_room { phase := .escaped, bytes } byte room
  simp [hearBurst, Burst.feed, stored, Burst.isFull, maxBurst, collectedNext, collecting]

theorem hearBurst_plain {bytes : List UInt8} (room : bytes.length < 256) {byte : UInt8}
    (notEnd : byte ≠ etx) (notEscape : byte ≠ subst) :
    hearBurst (collecting bytes) byte = collectedNext (bytes ++ [byte]) := by
  have stored := Burst.store_of_room { phase := .frame, bytes } byte room
  simp [hearBurst, Burst.feed, notEnd, notEscape, stored, Burst.isFull, maxBurst, collectedNext, collecting]

theorem hearBurst_subst {bytes : List UInt8} (room : bytes.length < 256) :
    hearBurst (collecting bytes) subst = .more { phase := .escaped, bytes } := by
  have notFull : bytes.length ≠ 256 := room.ne
  simp [hearBurst, Burst.feed, collecting, Burst.isFull, maxBurst, notFull, subst, etx]

/-- A token that does not end the frame adds its byte. -/
theorem hearAll_token {bytes : List UInt8} (room : bytes.length < 256) {token : Token}
    (goesOn : token.meaning ≠ .finish) :
    hearAll hearBurst (collecting bytes) token.spelled =
      (collectedNext (bytes ++ [token.byte]), token.spelled.length) := by
  cases token with
  | escaped byte =>
    have marked : hearAll hearBurst (collecting bytes) [subst] = (.more { phase := .escaped, bytes }, 1) := by
      rw [hearAll_single, hearBurst_subst room]
    have split : (Token.escaped byte).spelled = [subst] ++ [byte] := rfl
    rw [split, hearAll_append_of_more _ marked, hearAll_single, hearBurst_escaped room]
    rfl
  | plain byte unmarked =>
    have notEnd : byte ≠ etx := by
      intro finish
      subst finish
      exact goesOn rfl
    have split : (Token.plain byte unmarked).spelled = [byte] := rfl
    rw [split, hearAll_single, hearBurst_plain room notEnd unmarked]
    rfl

/-- The end token completes the burst with what is collected. -/
theorem hearAll_finish (bytes : List UInt8) {token : Token} (finish : token.meaning = .finish) :
    hearAll hearBurst (collecting bytes) token.spelled =
      (.enough (collecting bytes, true), token.spelled.length) := by
  cases token with
  | escaped byte => cases finish
  | plain byte unmarked =>
    have marker := Token.eq_etx_of_finish finish
    subst marker
    rfl

/-- Tokens that leave the collector inside the frame: none ends it, and they do not fill the burst. -/
structure Collecting (read : List Token) : Prop where
  unended : ∀ token ∈ read, token.meaning ≠ .finish
  short : read.length < 256

theorem hearAll_spell {read : List Token} (stays : Collecting read) :
    hearAll hearBurst (collecting []) (spell read) =
      (.more (collecting (read.map Token.byte)), (spell read).length) := by
  obtain ⟨unended, short⟩ := stays
  induction read using List.reverseRecOn with
  | nil => rfl
  | append_singleton read token ih =>
    rw [List.length_append, List.length_singleton] at short
    have before := ih (fun other among => unended other (List.mem_append_left _ among)) (by omega)
    have room : (read.map Token.byte).length < 256 := by
      rw [List.length_map]
      omega
    have added := hearAll_token room (unended token (by simp))
    have notFull : (read.map Token.byte ++ [token.byte]).length ≠ 256 := by
      simp only [List.length_append, List.length_map, List.length_singleton]
      omega
    rw [collectedNext, if_neg notFull] at added
    rw [spell_append, spell_cons, spell_nil, List.append_nil, hearAll_append_of_more _ before, added]
    simp

/-- The bytes are read up to their first end token, and the burst is not full by then. -/
def ClosesAt (data : List UInt8) (front : List Token) (token : Token) : Prop :=
  front ++ [token] <+: tokens data ∧ Collecting front ∧ token.meaning = .finish

/-- The bytes are read up to the token that fills the burst, and no end token comes before. -/
def FillsAt (data : List UInt8) (front : List Token) (token : Token) : Prop :=
  front ++ [token] <+: tokens data ∧ Collecting front ∧ token.meaning ≠ .finish ∧ front.length = 255

theorem Collecting.broken {read : List Token} (before : Collecting read) {token : Token}
    (ended : ¬ Collecting (read ++ [token])) :
    token.meaning = .finish ∨ token.meaning ≠ .finish ∧ read.length = 255 := by
  by_cases finish : token.meaning = .finish
  · exact .inl finish
  · refine .inr ⟨finish, ?_⟩
    by_contra room
    refine ended ⟨?_, ?_⟩
    · intro other among
      rcases List.mem_append.mp among with earlier | last
      · exact before.unended other earlier
      · rwa [List.mem_singleton.mp last]
    · have short := before.short
      rw [List.length_append, List.length_singleton]
      omega

section Outcomes

variable {data : List UInt8}

theorem collected_more (stays : Collecting (tokens data)) :
    ∃ burst, (hearAll hearBurst (collecting []) data).1 = .more burst := by
  have whole := hearAll_spell stays
  rcases spell_tokens data with read | dangling
  · rw [← read] at whole
    exact ⟨_, congrArg Prod.fst whole⟩
  · have short : ((tokens data).map Token.byte).length < 256 := by
      rw [List.length_map]
      exact stays.short
    have split : hearAll hearBurst (collecting []) data =
        hearAll hearBurst (collecting []) (spell (tokens data) ++ [subst]) := congrArg _ dangling
    rw [split, hearAll_append_of_more _ whole, hearAll_single, hearBurst_subst short]
    exact ⟨_, rfl⟩

variable {front : List Token} {token : Token}

theorem collected_closes (closes : ClosesAt data front token) :
    hearAll hearBurst (collecting []) data =
      (.enough (collecting (front.map Token.byte), true), (spell (front ++ [token])).length) := by
  obtain ⟨first, stays, finish⟩ := closes
  obtain ⟨rest, split⟩ := spell_isPrefix first
  have last := hearAll_append_of_enough _ (hearAll_finish (front.map Token.byte) finish) rest
  rw [← split, spell_append, List.append_assoc, hearAll_append_of_more _ (hearAll_spell stays), spell_cons,
    spell_nil, List.append_nil, last, List.length_append]

theorem collected_fills (fills : FillsAt data front token) :
    hearAll hearBurst (collecting []) data =
      (.enough (collecting ((front ++ [token]).map Token.byte), false), (spell (front ++ [token])).length) := by
  obtain ⟨first, stays, goesOn, full⟩ := fills
  obtain ⟨rest, split⟩ := spell_isPrefix first
  have room : (front.map Token.byte).length < 256 := by
    rw [List.length_map]
    exact stays.short
  have filled : (front.map Token.byte ++ [token.byte]).length = 256 := by
    rw [List.length_append, List.length_map, full, List.length_singleton]
  have added := hearAll_token room goesOn
  rw [collectedNext, if_pos filled] at added
  rw [← split, spell_append, List.append_assoc, hearAll_append_of_more _ (hearAll_spell stays), spell_cons,
    spell_nil, List.append_nil, hearAll_append_of_enough _ added rest, List.length_append, List.map_append]
  rfl

/-- There are no other ways for the tokens of a burst. -/
theorem collected_cases (data : List UInt8) :
    Collecting (tokens data) ∨ (∃ front token, ClosesAt data front token) ∨
      ∃ front token, FillsAt data front token := by
  have start : Collecting [] := ⟨by simp, by decide⟩
  rcases kept_or_broken start (tokens data) with stays | ⟨front, token, first, before, broken⟩
  · exact .inl stays
  · rcases before.broken broken with finish | ⟨goesOn, full⟩
    · exact .inr (.inl ⟨front, token, first, before, finish⟩)
    · exact .inr (.inr ⟨front, token, first, before, goesOn, full⟩)

end Outcomes

end Controller

/-! ### A payload between markers -/

/-- A payload as it is sent, between the two markers. -/
def framed (payload : List UInt8) : List UInt8 := stx :: payload ++ [etx]

namespace Escape

theorem stx_unmarked : stx ≠ subst := by decide

theorem etx_unmarked : etx ≠ subst := by decide

/-- Behind a whole payload the end marker is read as such. -/
theorem tokens_closed {payload : List UInt8} (whole : ¬ EndsEscaped payload) :
    tokens (payload ++ [etx]) = tokens payload ++ [.plain etx etx_unmarked] := by
  have read := (spell_tokens payload).resolve_right whole
  calc tokens (payload ++ [etx]) = tokens (spell (tokens payload) ++ [etx]) := by rw [← read]
    _ = tokens payload ++ [.plain etx etx_unmarked] := tokens_spell_append _ _

/-- Behind an open escape the end marker is one more literal. -/
theorem tokens_unclosed {payload : List UInt8} (dangling : EndsEscaped payload) :
    tokens (payload ++ [etx]) = tokens payload ++ [.escaped etx] := by
  have split : payload ++ [etx] = spell (tokens payload) ++ [subst, etx] := by
    calc payload ++ [etx] = spell (tokens payload) ++ [subst] ++ [etx] := congrArg (· ++ [etx]) dangling
      _ = spell (tokens payload) ++ [subst, etx] := List.append_assoc _ _ _
  rw [split, tokens_spell_append, tokens_escaped, tokens_nil]

/-- An end token of an unclosed frame comes before its last byte. -/
theorem finish_early {payload : List UInt8} (dangling : EndsEscaped payload) {front : List Token}
    {token : Token} (first : front ++ [token] <+: tokens (payload ++ [etx]))
    (finish : token.meaning = .finish) : (spell (front ++ [token])).length < (payload ++ [etx]).length := by
  rw [tokens_unclosed dangling] at first
  rcases List.prefix_concat_iff.mp first with all | ⟨later, before⟩
  · obtain ⟨-, last⟩ := List.append_inj' all rfl
    obtain rfl := List.singleton_inj.mp last
    cases finish
  · have length := congrArg List.length (dangling : payload = spell (tokens payload) ++ [subst])
    rw [← before, spell_append] at length
    simp only [List.length_append, List.length_singleton] at length ⊢
    omega

/-- Where no marker and no noise stands unescaped, every token is a literal. -/
theorem literals_of_guarded {payload : List UInt8} (noEtx : ¬ Unescaped payload etx)
    (noStx : ¬ Unescaped payload stx) (noZero : ¬ Unescaped payload 0x00) (noOne : ¬ Unescaped payload 0x01) :
    ∀ token ∈ tokens payload, token.meaning = .literal token.byte := by
  intro token among
  cases token with
  | escaped byte => rfl
  | plain byte unmarked =>
    have other : ∀ bare, ¬ Unescaped payload bare → byte ≠ bare := by
      intro bare free same
      subst same
      exact free ⟨unmarked, among⟩
    exact Token.meaning_plain unmarked (other stx noStx) (other 0x00 noZero) (other 0x01 noOne) (other etx noEtx)

/-- Some tokens behind a start marker. -/
def opened (read : List Token) : List Token := .plain stx stx_unmarked :: read

/-- Literals behind a start marker are gathered as they come. -/
theorem gathered_opened {read : List Token} (literals : ∀ token ∈ read, token.meaning = .literal token.byte) :
    gathered (opened read) = read.map Token.byte := by
  induction read using List.reverseRecOn with
  | nil => rfl
  | append_singleton read token ih =>
    have last := literals token (by simp)
    have split : opened (read ++ [token]) = opened read ++ [token] := rfl
    rw [split, gathered_literal _ last, ih fun other among => literals other (List.mem_append_left _ among),
      List.map_append]
    rfl

theorem unended_opened {read : List Token} (literals : ∀ token ∈ read, token.meaning = .literal token.byte) :
    ∀ token ∈ opened read, token.meaning ≠ .finish := by
  intro token among
  rcases List.mem_cons.mp among with start | later
  · rw [start]
    decide
  · rw [literals token later]
    exact Token.Meaning.noConfusion

theorem open_opened {read : List Token} (literals : ∀ token ∈ read, token.meaning = .literal token.byte)
    (short : read.length ≤ 21) : Open (opened read) where
  unended := unended_opened literals
  within := by
    intro front first
    cases front with
    | nil => exact Nat.zero_le _
    | cons token front =>
      obtain ⟨start, later⟩ := List.cons_prefix_cons.mp first
      subst start
      have held := gathered_opened fun token among => literals token (later.subset among)
      rw [opened] at held
      rw [held, List.length_map]
      exact later.length_le.trans short

theorem tokens_framed {payload : List UInt8} (whole : ¬ EndsEscaped payload) :
    tokens (framed payload) = opened (tokens payload) ++ [.plain etx etx_unmarked] := by
  have start : tokens (framed payload) = .plain stx stx_unmarked :: tokens (payload ++ [etx]) :=
    tokens_plain stx_unmarked _
  rw [start, tokens_closed whole]
  rfl

theorem spell_framed {payload : List UInt8} (whole : ¬ EndsEscaped payload) :
    spell (opened (tokens payload) ++ [.plain etx etx_unmarked]) = framed payload := by
  have inner := (spell_tokens payload).resolve_right whole
  calc spell (opened (tokens payload) ++ [.plain etx etx_unmarked])
      = stx :: (spell (tokens payload) ++ [etx]) := by simp [opened, Token.spelled]
    _ = framed payload := by rw [← inner]; rfl

end Escape

namespace Controller

theorem unended_of_guarded {payload : List UInt8} (noEtx : ¬ Unescaped payload etx) :
    ∀ token ∈ tokens payload, token.meaning ≠ .finish := by
  intro token among finish
  cases token with
  | escaped byte => cases finish
  | plain byte unmarked =>
    obtain rfl := Token.eq_etx_of_finish finish
    exact noEtx ⟨unmarked, among⟩

theorem hearAll_framed (payload : List UInt8) :
    hearAll hearBurst {} (framed payload) =
      ((hearAll hearBurst (collecting []) (payload ++ [etx])).1,
        (hearAll hearBurst (collecting []) (payload ++ [etx])).2 + 1) :=
  hearAll_hearBurst_stx (payload ++ [etx])

/-- A burst is complete with the end marker behind a whole payload, unless the payload fills it before. -/
theorem collected_framed {payload : List UInt8} (whole : ¬ EndsEscaped payload)
    (noEtx : ¬ Unescaped payload etx) :
    ((decoded payload).length < 256 ∧ hearAll hearBurst {} (framed payload) =
        (.enough (collecting (decoded payload), true), (framed payload).length)) ∨
      (256 ≤ (decoded payload).length ∧ ∃ count, hearAll hearBurst {} (framed payload) =
        (.enough (collecting ((decoded payload).take 256), false), count)) := by
  have unended := unended_of_guarded noEtx
  have closed := tokens_closed whole
  have length : (decoded payload).length = (tokens payload).length := List.length_map _
  rw [hearAll_framed, length]
  rcases collected_cases (payload ++ [etx]) with stays | ⟨front, token, closes⟩ | ⟨front, token, fills⟩
  · exact absurd rfl (stays.unended (.plain etx etx_unmarked) (by simp [closed]))
  · rw [collected_closes closes]
    obtain ⟨first, stays, finish⟩ := closes
    rw [closed] at first
    rcases List.prefix_concat_iff.mp first with all | before
    · obtain ⟨same, -⟩ := List.append_inj' all rfl
      have spelled : spell (tokens (payload ++ [etx])) = payload ++ [etx] := by
        rw [closed, spell_append, ← (spell_tokens payload).resolve_right whole]
        rfl
      rw [all, ← closed, spelled, same]
      exact .inl ⟨same ▸ stays.short, rfl⟩
    · exact absurd finish (unended token (before.subset (by simp)))
  · rw [collected_fills fills]
    obtain ⟨first, -, goesOn, full⟩ := fills
    rw [closed] at first
    rcases List.prefix_concat_iff.mp first with all | before
    · obtain ⟨-, last⟩ := List.append_inj' all rfl
      exact absurd (List.singleton_inj.mp last ▸ rfl) goesOn
    · have most := before.length_le
      have filled : (front ++ [token]).length = 256 := by
        rw [List.length_append, full, List.length_singleton]
      have kept : front ++ [token] = (tokens payload).take 256 := by
        rw [← filled]
        exact List.prefix_iff_eq_take.mp before
      rw [kept, List.map_take]
      exact .inr ⟨filled ▸ most, _, rfl⟩

/-- An unclosed frame is not completed by its last byte. -/
theorem collected_unclosed {payload : List UInt8} (dangling : EndsEscaped payload) (burst : Burst) :
    hearAll hearBurst {} (framed payload) ≠ (.enough (burst, true), (framed payload).length) := by
  have length : (framed payload).length = (payload ++ [etx]).length + 1 := rfl
  rw [hearAll_framed, length]
  intro completed
  obtain ⟨complete, taken⟩ := Prod.mk.inj completed
  rcases collected_cases (payload ++ [etx]) with stays | ⟨front, token, closes⟩ | ⟨front, token, fills⟩
  · obtain ⟨later, more⟩ := collected_more stays
    cases more.symm.trans complete
  · rw [collected_closes closes] at taken
    have early := finish_early dangling closes.1 closes.2.2
    simp only at taken
    omega
  · rw [collected_fills fills] at complete
    cases complete

end Controller

namespace Deframer

/-- A frame of literals is completed if they fit, and broken otherwise. -/
theorem run_framed {payload : List UInt8} (whole : ¬ EndsEscaped payload)
    (literals : ∀ token ∈ tokens payload, token.meaning = .literal token.byte) :
    ((decoded payload).length ≤ 21 ∧ (run {} (framed payload)).progress = .complete ∧
        (run {} (framed payload)).taken = (framed payload).length ∧
        (run {} (framed payload)).deframer.body = decoded payload) ∨
      (21 < (decoded payload).length ∧ (run {} (framed payload)).progress = .broken) := by
  have closed := tokens_framed whole
  have body : gathered (opened (tokens payload)) = decoded payload := gathered_opened literals
  have length : (decoded payload).length = (tokens payload).length := List.length_map _
  by_cases fits : (decoded payload).length ≤ 21
  · have ends : EndsAt (framed payload) (opened (tokens payload)) (.plain etx etx_unmarked) :=
      ⟨closed ▸ List.prefix_rfl, open_opened literals (length ▸ fits), rfl⟩
    obtain ⟨complete, taken, held⟩ := outcome_ends ends
    exact .inl ⟨fits, complete, taken.trans (congrArg List.length (spell_framed whole)), held.trans body⟩
  · refine .inr ⟨Nat.lt_of_not_le fits, ?_⟩
    rcases outcome_cases (payload ++ [etx]) with ⟨stays, -⟩ | ⟨front, token, ends, -⟩ | ⟨_, _, -, broken⟩
    · have marker : Token.plain etx etx_unmarked ∈ tokens (framed payload) := by simp [closed]
      exact absurd rfl (stays.unended _ marker)
    · obtain ⟨first, stays, finish⟩ := ends
      have first : front ++ [token] <+: opened (tokens payload) ++ [.plain etx etx_unmarked] := closed ▸ first
      rcases List.prefix_concat_iff.mp first with all | before
      · obtain ⟨same, -⟩ := List.append_inj' all rfl
        have within := stays.within front List.prefix_rfl
        rw [same, body] at within
        exact absurd within fits
      · exact absurd finish (unended_opened literals token (before.subset (by simp)))
    · exact broken

/-- An unclosed frame is not completed by its last byte. -/
theorem run_unclosed {payload : List UInt8} (dangling : EndsEscaped payload) :
    ¬ ((run {} (framed payload)).progress = .complete ∧
      (run {} (framed payload)).taken = (framed payload).length) := by
  intro completed
  obtain ⟨complete, taken⟩ := completed
  have behind : EndsEscaped (stx :: payload) := (endsEscaped_plain stx_unmarked payload).mpr dangling
  rcases outcome_cases (payload ++ [etx]) with ⟨-, more⟩ | ⟨front, token, ends, -⟩ | ⟨_, _, -, broken⟩
  · cases complete.symm.trans more
  · obtain ⟨first, -, finish⟩ := id ends
    have early := finish_early behind first finish
    have reached := taken.symm.trans (outcome_ends ends).2.1
    exact absurd (reached ▸ early) (Nat.lt_irrefl _)
  · cases complete.symm.trans broken

end Deframer

/-! ### All three -/

/-- The collector completes the burst with the last byte of the frame, and has collected `body`. -/
def Collects (payload body : List UInt8) : Prop :=
  ∃ burst, hearAll Controller.hearBurst {} (framed payload) = (.enough (burst, true), (framed payload).length) ∧
    burst.bytes = body

/-- The collector stops with a full burst, which is no complete frame. -/
def CollectsFull (payload body : List UInt8) : Prop :=
  ∃ burst count, hearAll Controller.hearBurst {} (framed payload) = (.enough (burst, false), count) ∧
    burst.isFull = true ∧ burst.bytes = body

/-- The deframer completes the frame with its last byte, and holds `body`. -/
def Deframes (payload body : List UInt8) : Prop :=
  (Deframer.run {} (framed payload)).progress = .complete ∧
    (Deframer.run {} (framed payload)).taken = (framed payload).length ∧
    (Deframer.run {} (framed payload)).deframer.body = body

theorem collects_decoded {payload : List UInt8} (whole : ¬ EndsEscaped payload)
    (noEtx : ¬ Unescaped payload etx) :
    (Collects payload (decoded payload) ↔ (decoded payload).length < 256) ∧
      (256 ≤ (decoded payload).length → CollectsFull payload ((decoded payload).take 256)) := by
  rcases Controller.collected_framed whole noEtx with ⟨short, complete⟩ | ⟨long, count, full⟩
  · have collects : Collects payload (decoded payload) := ⟨_, complete, rfl⟩
    exact ⟨iff_of_true collects short, fun long => absurd short (Nat.not_lt.mpr long)⟩
  · constructor
    · refine iff_of_false ?_ (Nat.not_lt.mpr long)
      intro collects
      obtain ⟨burst, complete, -⟩ := collects
      cases full.symm.trans complete
    · intro _
      have length : ((decoded payload).take 256).length = 256 := List.length_take_of_le long
      exact ⟨_, count, full, beq_iff_eq.mpr length, rfl⟩

theorem deframes_decoded {payload : List UInt8} (whole : ¬ EndsEscaped payload)
    (literals : ∀ token ∈ tokens payload, token.meaning = .literal token.byte) :
    (Deframes payload (decoded payload) ↔ (decoded payload).length ≤ 21) ∧
      (21 < (decoded payload).length → (Deframer.run {} (framed payload)).progress = .broken) := by
  rcases Deframer.run_framed whole literals with ⟨fits, complete⟩ | ⟨long, broken⟩
  · exact ⟨iff_of_true complete fits, fun long => absurd fits (Nat.not_le.mpr long)⟩
  · constructor
    · refine iff_of_false ?_ (Nat.not_le.mpr long)
      intro complete
      cases broken.symm.trans complete.1
    · intro _
      exact broken

/-- What the three decoders make of one payload. -/
structure DecodersAgree (payload : List UInt8) : Prop where
  /-- A buffer as long as the payload is large enough. -/
  decodes : ¬ EndsEscaped payload → ∀ capacity, payload.length ≤ capacity →
    ∃ body, unstuff capacity [] payload = { buffer := body }
  collects : ¬ Unescaped payload etx → ∀ capacity body, unstuff capacity [] payload = { buffer := body } →
    (Collects payload body ↔ body.length < 256) ∧ (256 ≤ body.length → CollectsFull payload (body.take 256))
  deframes : ¬ Unescaped payload etx → ¬ Unescaped payload stx → ¬ Unescaped payload 0x00 →
    ¬ Unescaped payload 0x01 → ∀ capacity body, unstuff capacity [] payload = { buffer := body } →
    (Deframes payload body ↔ body.length ≤ 21) ∧
      (21 < body.length → (Deframer.run {} (framed payload)).progress = .broken)
  /-- An escape without its byte is refused, and takes the end marker behind it as that byte. -/
  dangling : EndsEscaped payload →
    (∀ capacity, payload.length ≤ capacity → (unstuff capacity [] payload).fault = some .framing) ∧
      (∀ body, ¬ Collects payload body) ∧ ∀ body, ¬ Deframes payload body
  /-- All three undo escaping, here of the payload taken as a body. -/
  recovered : ∀ capacity, 2 * payload.length ≤ capacity →
    ∃ wire, stuff capacity [] payload = { buffer := wire } ∧
      (∀ room, payload.length ≤ room → unstuff room [] wire = { buffer := payload }) ∧
      (payload.length < 256 → Collects wire payload) ∧ (payload.length ≤ 21 → Deframes wire payload)

/-- **The three decoders agree** on every payload. -/
theorem decoders_agree (payload : List UInt8) : DecodersAgree payload where
  decodes := by
    intro whole capacity room
    have fits := (length_decoded_le payload).trans room
    exact ⟨decoded payload, (unstuff_eq_iff capacity payload _).mpr ⟨whole, rfl, fits⟩⟩
  collects := by
    intro noEtx capacity body done
    obtain ⟨whole, same, -⟩ := (unstuff_eq_iff capacity payload body).mp done
    rw [same]
    exact collects_decoded whole noEtx
  deframes := by
    intro noEtx noStx noZero noOne capacity body done
    obtain ⟨whole, same, -⟩ := (unstuff_eq_iff capacity payload body).mp done
    rw [same]
    exact deframes_decoded whole (literals_of_guarded noEtx noStx noZero noOne)
  dangling := by
    intro dangling
    refine ⟨?_, ?_, ?_⟩
    · intro capacity room
      have fits := (length_decoded_le payload).trans room
      rw [unstuff_eq capacity [] payload (Nat.zero_le _), List.nil_append, kept_of_fits fits, if_pos dangling]
    · intro body collects
      obtain ⟨burst, complete, -⟩ := collects
      exact Controller.collected_unclosed dangling burst complete
    · intro body deframes
      exact Deframer.run_unclosed dangling ⟨deframes.1, deframes.2.1⟩
  recovered := by
    intro capacity room
    obtain ⟨same, whole, literals⟩ := tokens_escaped_body payload
    have fits := (length_escaped_le payload).trans room
    have noEtx : ¬ Unescaped (escaped payload) etx := by
      intro bare
      obtain ⟨unmarked, among⟩ := bare
      cases literals _ among
    have collects := (collects_decoded whole noEtx).1.mpr
    have deframes := (deframes_decoded whole literals).1.mpr
    rw [same] at collects deframes
    refine ⟨escaped payload, (stuff_eq_iff capacity payload _).mpr ⟨rfl, fits⟩, ?_, collects, deframes⟩
    intro size enough
    exact (unstuff_eq_iff size _ payload).mpr ⟨whole, same.symm, enough⟩

end NodeBus
