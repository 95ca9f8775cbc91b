import Mathlib
import NodeBus.Proofs.FrameRoundTrip
import NodeBus.Proofs.WireTokens

/-!
# The deframer reads tokens

The deframer sees one byte at a time, and of an escape byte not yet what it protects. Told by tokens, its runs
are simple: as long as the tokens leave it inside the frame it holds what they gather (`run_open`), the end token
completes the frame, and a literal behind a full body breaks it. `frames_read` says so of every stream, with the
byte at which the run stops.
-/
namespace NodeBus.Deframer
open Escape

/-- A run that goes on is continued where it stands. -/
theorem run_append (deframer : Deframer) (bytes rest : List UInt8)
    (unfinished : (deframer.run bytes).progress = .more) :
    deframer.run (bytes ++ rest) =
      { (deframer.run bytes).deframer.run rest with
        taken := bytes.length + ((deframer.run bytes).deframer.run rest).taken } := by
  induction bytes generalizing deframer with
  | nil => simp [run]
  | cons byte bytes ih =>
    rcases fed : deframer.feed byte with ⟨next, progress⟩
    by_cases goes : progress = .more
    · subst goes
      rw [run_cons_more _ _ _ _ fed] at unfinished
      rw [List.cons_append, run_cons_more _ _ _ _ fed, run_cons_more _ _ _ _ fed, ih next unfinished]
      simp only [Run.mk.injEq, List.length_cons, true_and]
      omega
    · rw [run_cons_ended _ _ _ _ _ fed goes] at unfinished
      exact absurd unfinished goes

/-- The deframer inside a frame of which some bytes are gathered. -/
def holding (body : List UInt8) : Deframer := { phase := .inside, body, started := true }

/-! ### One token -/

theorem above_subst {byte : UInt8} (notZero : byte ≠ 0x00) (notOne : byte ≠ 0x01) (notStx : byte ≠ stx)
    (notEtx : byte ≠ etx) (notSubst : byte ≠ subst) : subst < byte := by
  simp only [UInt8.lt_iff_toNat_lt, ne_eq, ← UInt8.toNat_inj, subst, stx, etx, UInt8.toNat_ofNat] at *
  omega

/-- Inside a frame a byte that is no escape byte does what it means as a token. -/
theorem feed_plain (body : List UInt8) (byte : UInt8) (unmarked : byte ≠ subst) :
    (holding body).feed byte =
      match (Token.plain byte unmarked).meaning with
      | .restart => (holding [], .more)
      | .nothing => (holding body, .more)
      | .finish => (holding body, .complete)
      | .literal byte => (holding body).store byte := by
  by_cases restart : byte = stx
  · subst restart
    rfl
  by_cases nothing : byte = 0x00 ∨ byte = 0x01
  · rcases nothing with rfl | rfl
    · rfl
    · rfl
  by_cases finish : byte = etx
  · subst finish
    rfl
  have above := above_subst (fun zero => nothing (.inl zero)) (fun one => nothing (.inr one)) restart finish
    unmarked
  simp [feed, holding, Token.meaning, unmarked, restart, nothing, finish, above]

theorem store_of_room {body : List UInt8} (room : body.length < 21) (phase : Phase) (byte : UInt8) :
    store { phase, body, started := true } byte = (holding (body ++ [byte]), .more) := by
  have free : body.length < Frame.maxBody := room
  simp [store, store?, free, holding]

theorem store_of_full {body : List UInt8} (full : body.length = 21) (phase : Phase) (byte : UInt8) :
    store { phase, body, started := true } byte = ({ phase, body, started := true }, .broken) := by
  have noRoom : ¬ body.length < Frame.maxBody := by
    rw [full]
    decide
  simp [store, store?, noRoom]

theorem run_single (deframer next : Deframer) (byte : UInt8) (progress : Progress)
    (fed : deframer.feed byte = (next, progress)) :
    deframer.run [byte] = { deframer := next, progress, taken := 1 } := by
  cases progress with
  | more => rw [run_cons_more _ _ _ _ fed, run]
  | complete => rw [run_cons_ended _ _ _ _ _ fed (by decide)]
  | broken => rw [run_cons_ended _ _ _ _ _ fed (by decide)]

theorem run_escaped_byte (body : List UInt8) (next : Deframer) (byte : UInt8) (progress : Progress)
    (stored : store { phase := .escaped, body, started := true } byte = (next, progress)) :
    (holding body).run [subst, byte] = { deframer := next, progress, taken := 2 } := by
  have marked : (holding body).feed subst = ({ phase := .escaped, body, started := true }, .more) := rfl
  have fed : feed { phase := .escaped, body, started := true } byte = (next, progress) := stored
  rw [run_cons_more _ _ _ _ marked, run_single _ next byte progress fed]

/-- The end token completes the frame with what is held. -/
theorem run_finish (body : List UInt8) {token : Token} (finish : token.meaning = .finish) :
    (holding body).run token.spelled =
      { deframer := holding body, progress := .complete, taken := token.spelled.length } := by
  cases token with
  | escaped byte => cases finish
  | plain byte unmarked => exact run_single _ _ byte _ (by rw [feed_plain body byte unmarked, finish])

/-- A literal behind a full body breaks the frame with its last byte. -/
theorem run_full {body : List UInt8} (full : body.length = 21) {token : Token} {byte : UInt8}
    (literal : token.meaning = .literal byte) :
    ((holding body).run token.spelled).progress = .broken ∧
      ((holding body).run token.spelled).taken = token.spelled.length := by
  cases token with
  | escaped byte => simp [Token.spelled, run_escaped_byte body _ byte _ (store_of_full full .escaped byte)]
  | plain byte unmarked =>
    have refused := feed_plain body byte unmarked
    rw [literal] at refused
    simp [Token.spelled, run_single _ _ byte _ (refused.trans (store_of_full full .inside _))]

/-- Any other token leaves the deframer inside the frame, with what is gathered then. -/
theorem run_token {read : List Token} {token : Token} (stays : Open (read ++ [token])) :
    (holding (gathered read)).run token.spelled =
      { deframer := holding (gathered (read ++ [token])), progress := .more, taken := token.spelled.length } := by
  have goesOn := stays.unended token (by simp)
  have room := stays.within _ List.prefix_rfl
  cases meant : token.meaning with
  | finish => exact absurd meant goesOn
  | restart =>
    rw [gathered_restart read meant]
    cases token with
    | escaped byte => cases meant
    | plain byte unmarked => exact run_single _ _ byte _ (by rw [feed_plain _ byte unmarked, meant])
  | nothing =>
    rw [gathered_nothing read meant]
    cases token with
    | escaped byte => cases meant
    | plain byte unmarked => exact run_single _ _ byte _ (by rw [feed_plain _ byte unmarked, meant])
  | literal byte =>
    rw [gathered_literal read meant, List.length_append, List.length_singleton] at room
    rw [gathered_literal read meant]
    have free : (gathered read).length < 21 := room
    cases token with
    | escaped byte =>
      obtain rfl := Token.Meaning.literal.inj meant
      exact run_escaped_byte _ _ _ _ (store_of_room free .escaped _)
    | plain byte unmarked =>
      refine run_single _ _ byte _ ?_
      rw [feed_plain _ byte unmarked, meant]
      exact store_of_room free .inside _

/-! ### Runs over tokens -/

/-- While the tokens leave it inside the frame, the deframer holds what they gather. -/
theorem run_open {read : List Token} (stays : Open read) :
    (holding []).run (spell read) =
      { deframer := holding (gathered read), progress := .more, taken := (spell read).length } := by
  induction read using List.reverseRecOn with
  | nil => rfl
  | append_singleton read token ih =>
    have before := ih stays.init
    rw [spell_append, run_append _ _ _ (by rw [before]), before, spell_cons, spell_nil, List.append_nil,
      run_token stays, List.length_append]

/-- What the token behind them does decides, when the tokens before it leave the deframer inside the frame. -/
theorem run_behind {read : List Token} (stays : Open read) (token : Token) (rest : List UInt8)
    (ended : ((holding (gathered read)).run token.spelled).progress ≠ .more) :
    (holding []).run (spell (read ++ [token]) ++ rest) =
      { (holding (gathered read)).run token.spelled with
        taken := (spell read).length + ((holding (gathered read)).run token.spelled).taken } := by
  have before := run_open stays
  have split : spell (read ++ [token]) ++ rest = spell read ++ (token.spelled ++ rest) := by simp
  rw [split, run_append _ _ _ (by rw [before]), before, run_append_of_ended _ _ _ ended]

section Streams

variable {bytes : List UInt8}

theorem run_of_open (stays : Open (tokens bytes)) :
    ((holding []).run bytes).progress = .more ∧ ((holding []).run bytes).taken = bytes.length ∧
      ((holding []).run bytes).deframer.body = gathered (tokens bytes) := by
  have whole := run_open stays
  rcases spell_tokens bytes with read | dangling
  · rw [← read] at whole
    rw [whole]
    exact ⟨rfl, rfl, rfl⟩
  · -- the escape byte at the end has been taken, and changes nothing yet
    have marked : (holding (gathered (tokens bytes))).feed subst =
        ({ phase := .escaped, body := gathered (tokens bytes), started := true }, .more) := rfl
    have split : (holding []).run bytes = (holding []).run (spell (tokens bytes) ++ [subst]) :=
      congrArg _ dangling
    have length : bytes.length = (spell (tokens bytes)).length + 1 :=
      (congrArg List.length dangling).trans List.length_append
    rw [split, run_append _ _ _ (by rw [whole]), whole, run_single _ _ _ _ marked, length]
    exact ⟨rfl, rfl, rfl⟩

variable {front : List Token} {token : Token} (first : front ++ [token] <+: tokens bytes) (stays : Open front)
include first stays

theorem run_of_finish (finish : token.meaning = .finish) :
    (holding []).run bytes =
      { deframer := holding (gathered front), progress := .complete
        taken := (spell (front ++ [token])).length } := by
  obtain ⟨rest, split⟩ := spell_isPrefix first
  have last := run_finish (gathered front) finish
  rw [← split, run_behind stays token rest (by simp [last]), last]
  simp

theorem run_of_overgrown {byte : UInt8} (full : (gathered front).length = 21)
    (literal : token.meaning = .literal byte) :
    ((holding []).run bytes).progress = .broken ∧
      ((holding []).run bytes).taken = (spell (front ++ [token])).length := by
  obtain ⟨rest, split⟩ := spell_isPrefix first
  obtain ⟨broken, taken⟩ := run_full full literal
  rw [← split, run_behind stays token rest (by simp [broken]), broken, taken]
  simp

end Streams

/-- The stream is read up to its first end token, and not one literal too many comes before. -/
def EndsAt (bytes : List UInt8) (front : List Token) (token : Token) : Prop :=
  front ++ [token] <+: tokens bytes ∧ Open front ∧ token.meaning = .finish

/-- The stream is read up to the first literal that is the 22nd since the last restart, and no end token comes
before. -/
def OutgrowsAt (bytes : List UInt8) (front : List Token) (token : Token) : Prop :=
  front ++ [token] <+: tokens bytes ∧ Open front ∧ (gathered front).length = 21 ∧
    ∃ byte, token.meaning = .literal byte

/-- There are no other ways for the tokens of a stream. -/
theorem open_or_ends_or_outgrows (bytes : List UInt8) :
    Open (tokens bytes) ∨ (∃ front token, EndsAt bytes front token) ∨
      ∃ front token, OutgrowsAt bytes front token := by
  rcases kept_or_broken open_nil (tokens bytes) with stays | ⟨front, token, first, before, broken⟩
  · exact .inl stays
  · rcases before.broken broken with finish | ⟨full, literal⟩
    · exact .inr (.inl ⟨front, token, first, before, finish⟩)
    · exact .inr (.inr ⟨front, token, first, before, full, literal⟩)

/-- A run that ended was told to go on by every byte but the last. -/
theorem feedAll_taken (deframer : Deframer) {bytes : List UInt8} (some : bytes ≠ []) :
    0 < (deframer.run bytes).taken ∧
    deframer.feedAll (bytes.take (deframer.run bytes).taken) = ((deframer.run bytes).deframer,
      List.replicate ((deframer.run bytes).taken - 1) .more ++ [(deframer.run bytes).progress]) := by
  induction bytes generalizing deframer with
  | nil => exact absurd rfl some
  | cons byte rest ih =>
    rcases fed : deframer.feed byte with ⟨next, progress⟩
    by_cases goes : progress = .more
    · subst goes
      rw [run_cons_more _ _ _ _ fed, List.take_succ_cons, feedAll_cons _ _ _ _ _ fed]
      by_cases last : rest = []
      · subst last
        exact ⟨Nat.one_pos, rfl⟩
      · obtain ⟨positive, answers⟩ := ih next last
        refine ⟨Nat.succ_pos _, ?_⟩
        rw [answers, Nat.add_sub_cancel]
        obtain ⟨count, taken⟩ := Nat.exists_eq_succ_of_ne_zero positive.ne'
        simp only [taken, Nat.succ_sub_one, List.replicate_succ, List.cons_append]
    · rw [run_cons_ended _ _ _ _ _ fed goes]
      simp [feedAll_cons _ _ _ _ _ fed, feedAll]

/-- What feeding a stream to a fresh deframer comes to, told by the tokens of the stream. -/
structure FramesRead (bytes : List UInt8) : Prop where
  started : (run {} bytes).deframer.started = true ↔ bytes ≠ []
  answers : bytes ≠ [] → (feedAll {} (bytes.take (run {} bytes).taken)).2 =
    List.replicate ((run {} bytes).taken - 1) .more ++ [(run {} bytes).progress]
  stray : ∀ first rest, bytes = first :: rest →
    ((run {} bytes).progress = .broken ∧ (run {} bytes).taken = 1 ↔ first ≠ stx)
  broken : ∀ rest, bytes = stx :: rest → ∀ count,
    ((run {} bytes).progress = .broken ∧ (run {} bytes).taken = count ↔
      ∃ front token, OutgrowsAt bytes front token ∧ count = (spell (front ++ [token])).length)
  complete : ∀ rest, bytes = stx :: rest → ∀ count body,
    ((run {} bytes).progress = .complete ∧ (run {} bytes).taken = count ∧
        (run {} bytes).deframer.body = body ↔
      ∃ front token, EndsAt bytes front token ∧ count = (spell (front ++ [token])).length ∧
        body = gathered front)
  more : ∀ rest, bytes = stx :: rest →
    ((run {} bytes).progress = .more ↔ Open (tokens bytes)) ∧
    (Open (tokens bytes) → (run {} bytes).taken = bytes.length ∧
      (run {} bytes).deframer.body = gathered (tokens bytes))

/-- A first start marker leads where any other does. -/
theorem run_stx (rest : List UInt8) : run {} (stx :: rest) = (holding []).run (stx :: rest) := by
  have hunting : feed {} stx = (holding [], .more) := rfl
  have inside : (holding []).feed stx = (holding [], .more) := rfl
  rw [run_cons_more _ _ _ _ hunting, run_cons_more _ _ _ _ inside]

/-- Behind a first start marker nothing is refused at once. -/
theorem run_stx_not_stray (rest : List UInt8) :
    ¬ ((run {} (stx :: rest)).progress = .broken ∧ (run {} (stx :: rest)).taken = 1) := by
  intro stray
  have hunting : feed {} stx = (holding [], .more) := rfl
  rw [run_cons_more _ _ _ _ hunting] at stray
  obtain ⟨broken, taken⟩ := stray
  by_cases last : rest = []
  · subst last
    cases broken
  · have positive := (feedAll_taken (holding []) last).1
    simp only at taken
    omega

theorem run_not_stx {first : UInt8} (other : first ≠ stx) (rest : List UInt8) :
    (run {} (first :: rest)).progress = .broken ∧ (run {} (first :: rest)).taken = 1 := by
  have stray : feed {} first = ({ started := true }, .broken) := by simp [feed, other]
  rw [run_cons_ended _ _ _ _ _ stray (by decide)]
  exact ⟨rfl, rfl⟩

section Outcomes

variable {rest : List UInt8}

theorem outcome_open (stays : Open (tokens (stx :: rest))) :
    (run {} (stx :: rest)).progress = .more ∧ (run {} (stx :: rest)).taken = (stx :: rest).length ∧
      (run {} (stx :: rest)).deframer.body = gathered (tokens (stx :: rest)) := by
  rw [run_stx]
  exact run_of_open stays

theorem outcome_ends {front : List Token} {token : Token} (ends : EndsAt (stx :: rest) front token) :
    (run {} (stx :: rest)).progress = .complete ∧
      (run {} (stx :: rest)).taken = (spell (front ++ [token])).length ∧
      (run {} (stx :: rest)).deframer.body = gathered front := by
  obtain ⟨first, stays, finish⟩ := ends
  rw [run_stx, run_of_finish first stays finish]
  exact ⟨rfl, rfl, rfl⟩

theorem outcome_outgrows {front : List Token} {token : Token} (outgrows : OutgrowsAt (stx :: rest) front token) :
    (run {} (stx :: rest)).progress = .broken ∧
      (run {} (stx :: rest)).taken = (spell (front ++ [token])).length := by
  obtain ⟨first, stays, full, byte, literal⟩ := outgrows
  rw [run_stx]
  exact run_of_overgrown first stays full literal

/-- The way a stream went is the way its tokens go. -/
theorem outcome_cases (rest : List UInt8) :
    (Open (tokens (stx :: rest)) ∧ (run {} (stx :: rest)).progress = .more) ∨
      (∃ front token, EndsAt (stx :: rest) front token ∧ (run {} (stx :: rest)).progress = .complete) ∨
      ∃ front token, OutgrowsAt (stx :: rest) front token ∧ (run {} (stx :: rest)).progress = .broken := by
  rcases open_or_ends_or_outgrows (stx :: rest) with stays | ⟨front, token, ends⟩ | ⟨front, token, outgrows⟩
  · exact .inl ⟨stays, (outcome_open stays).1⟩
  · exact .inr (.inl ⟨front, token, ends, (outcome_ends ends).1⟩)
  · exact .inr (.inr ⟨front, token, outgrows, (outcome_outgrows outgrows).1⟩)

theorem more_iff : (run {} (stx :: rest)).progress = .more ↔ Open (tokens (stx :: rest)) := by
  constructor
  · intro more
    rcases outcome_cases rest with ⟨stays, -⟩ | ⟨_, _, -, complete⟩ | ⟨_, _, -, broken⟩
    · exact stays
    · cases more.symm.trans complete
    · cases more.symm.trans broken
  · intro stays
    exact (outcome_open stays).1

theorem complete_iff (count : Nat) (body : List UInt8) :
    (run {} (stx :: rest)).progress = .complete ∧ (run {} (stx :: rest)).taken = count ∧
        (run {} (stx :: rest)).deframer.body = body ↔
      ∃ front token, EndsAt (stx :: rest) front token ∧ count = (spell (front ++ [token])).length ∧
        body = gathered front := by
  constructor
  · intro completed
    obtain ⟨complete, taken, held⟩ := completed
    rcases outcome_cases rest with ⟨-, more⟩ | ⟨front, token, ends, -⟩ | ⟨_, _, -, broken⟩
    · cases complete.symm.trans more
    · obtain ⟨-, length, gathered⟩ := outcome_ends ends
      exact ⟨front, token, ends, taken.symm.trans length, held.symm.trans gathered⟩
    · cases complete.symm.trans broken
  · intro found
    obtain ⟨front, token, ends, length, gathered⟩ := found
    rw [length, gathered]
    exact outcome_ends ends

theorem broken_iff (count : Nat) :
    (run {} (stx :: rest)).progress = .broken ∧ (run {} (stx :: rest)).taken = count ↔
      ∃ front token, OutgrowsAt (stx :: rest) front token ∧ count = (spell (front ++ [token])).length := by
  constructor
  · intro refused
    obtain ⟨broken, taken⟩ := refused
    rcases outcome_cases rest with ⟨-, more⟩ | ⟨_, _, -, complete⟩ | ⟨front, token, outgrows, -⟩
    · cases broken.symm.trans more
    · cases broken.symm.trans complete
    · exact ⟨front, token, outgrows, taken.symm.trans (outcome_outgrows outgrows).2⟩
  · intro found
    obtain ⟨front, token, outgrows, length⟩ := found
    rw [length]
    exact outcome_outgrows outgrows

end Outcomes

/-- **The deframer reads frames by their tokens**, on every stream. -/
theorem frames_read (bytes : List UInt8) : FramesRead bytes where
  started := started_run bytes
  answers := fun some => congrArg Prod.snd (feedAll_taken {} some).2
  stray := by
    intro first rest split
    subst split
    constructor
    · intro stray marker
      subst marker
      exact run_stx_not_stray rest stray
    · intro other
      exact run_not_stx other rest
  broken := by
    intro rest split count
    subst split
    exact broken_iff count
  complete := by
    intro rest split count body
    subst split
    exact complete_iff count body
  more := by
    intro rest split
    subst split
    exact ⟨more_iff, fun stays => (outcome_open stays).2⟩

end NodeBus.Deframer
