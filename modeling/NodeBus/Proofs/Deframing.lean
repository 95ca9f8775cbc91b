import Mathlib
import NodeBus.Deframer

/-!
# Running the deframer

`Fed` lists everything that one byte can bring about, and `fed_feed` that nothing else happens. Whatever
single bytes preserve is read off that list.

A receiver feeds its deframer until the first answer other than `more`. `Deframer.run` is that run over
plain bytes. Whatever the bytes, the body it gathers never outgrows the limit (`length_body_run_le`), bytes
behind the end of a run change nothing (`run_append_of_ended`), and a run notes that it has started with
its first byte (`started_run`).
-/
namespace NodeBus.Deframer

/-! ### One byte -/

/-- The byte stands for itself: it is escaped, or is none of the markers. -/
def TakesLiterally (deframer : Deframer) (byte : UInt8) : Prop :=
  deframer.phase = .escaped ∨ deframer.phase = .inside ∧ Escape.subst < byte

/-- Everything one byte can bring about. The two indices are the deframer afterwards and its answer. -/
inductive Fed (deframer : Deframer) (byte : UInt8) : Deframer → Progress → Prop
  | start (hunting : deframer.phase = .hunting) (marker : byte = Escape.stx) :
      Fed deframer byte { phase := .inside, started := true } .more
  | stray (hunting : deframer.phase = .hunting) (other : byte ≠ Escape.stx) :
      Fed deframer byte { deframer with started := true } .broken
  | escape (inside : deframer.phase = .inside) (marker : byte = Escape.subst) :
      Fed deframer byte { deframer with phase := .escaped, started := true } .more
  | restart (inside : deframer.phase = .inside) (marker : byte = Escape.stx) :
      Fed deframer byte { deframer with body := [], started := true } .more
  | finish (inside : deframer.phase = .inside) (marker : byte = Escape.etx) :
      Fed deframer byte { deframer with started := true } .complete
  | noise (inside : deframer.phase = .inside) (low : byte < Escape.stx) :
      Fed deframer byte { deframer with started := true } .more
  | literal (taken : deframer.TakesLiterally byte) (room : deframer.body.length < Frame.maxBody) :
      Fed deframer byte { phase := .inside, body := deframer.body ++ [byte], started := true } .more
  | full (taken : deframer.TakesLiterally byte) (noRoom : Frame.maxBody ≤ deframer.body.length) :
      Fed deframer byte { deframer with started := true } .broken

theorem noise_of_unmarked {byte : UInt8} (notSubst : byte ≠ Escape.subst) (notStx : byte ≠ Escape.stx)
    (notEtx : byte ≠ Escape.etx) (notData : ¬ Escape.subst < byte) : byte < Escape.stx := by
  simp only [UInt8.lt_iff_toNat_lt, ne_eq, ← UInt8.toNat_inj, Escape.subst, Escape.stx, Escape.etx,
    UInt8.toNat_ofNat] at *
  omega

theorem fed_store (deframer : Deframer) (byte : UInt8) (taken : deframer.TakesLiterally byte) :
    Fed deframer byte ({ deframer with started := true }.store byte).1
      ({ deframer with started := true }.store byte).2 := by
  by_cases room : deframer.body.length < Frame.maxBody
  · simp only [store, Escape.store?, room, if_true]
    exact .literal taken room
  · simp only [store, Escape.store?, room, if_false]
    exact .full taken (Nat.le_of_not_lt room)

theorem fed_feed (deframer : Deframer) (byte : UInt8) :
    Fed deframer byte (deframer.feed byte).1 (deframer.feed byte).2 := by
  obtain ⟨phase, body, started⟩ := deframer
  cases phase with
  | hunting =>
    by_cases marker : byte = Escape.stx
    · simp only [feed, marker, if_true]
      exact .start rfl rfl
    · simp only [feed, marker, if_false]
      exact .stray rfl marker
  | escaped => exact fed_store _ byte (.inl rfl)
  | inside =>
    by_cases escape : byte = Escape.subst
    · subst escape
      exact .escape rfl rfl
    by_cases restart : byte = Escape.stx
    · subst restart
      exact .restart rfl rfl
    by_cases finish : byte = Escape.etx
    · subst finish
      exact .finish rfl rfl
    by_cases data : Escape.subst < byte
    · simp only [feed, escape, restart, finish, data, if_false, if_true]
      exact fed_store ⟨.inside, body, started⟩ byte (.inr ⟨rfl, data⟩)
    · simp only [feed, escape, restart, finish, data, if_false]
      exact .noise rfl (noise_of_unmarked escape restart finish data)

theorem fed_of_feed {deframer next : Deframer} {byte : UInt8} {progress : Progress}
    (fed : deframer.feed byte = (next, progress)) : Fed deframer byte next progress := by
  have listed := deframer.fed_feed byte
  rwa [fed] at listed

/-! ### Bytes up to the end of a frame -/

/-- What feeding some bytes came to: the deframer at the end, its last answer, and how many bytes it
took. -/
structure Run where
  deframer : Deframer
  progress : Progress
  taken : Nat
  deriving DecidableEq, Repr

/-- Feeds bytes up to the first answer other than `more`. -/
def run (deframer : Deframer) : List UInt8 → Run
  | [] => { deframer, progress := .more, taken := 0 }
  | byte :: rest =>
    match deframer.feed byte with
    | (next, .more) => { next.run rest with taken := (next.run rest).taken + 1 }
    | (next, progress) => { deframer := next, progress, taken := 1 }

theorem run_cons_more (deframer next : Deframer) (byte : UInt8) (rest : List UInt8)
    (fed : deframer.feed byte = (next, .more)) :
    deframer.run (byte :: rest) = { next.run rest with taken := (next.run rest).taken + 1 } := by
  rw [run, fed]

theorem run_cons_ended (deframer next : Deframer) (byte : UInt8) (rest : List UInt8)
    (progress : Progress) (fed : deframer.feed byte = (next, progress)) (ended : progress ≠ .more) :
    deframer.run (byte :: rest) = { deframer := next, progress, taken := 1 } := by
  rw [run, fed]
  cases progress with
  | more => exact absurd rfl ended
  | complete => rfl
  | broken => rfl

/-- What every single byte preserves, a run preserves. -/
theorem run_preserves (kept : Deframer → Prop)
    (step : ∀ deframer byte, kept deframer → kept (deframer.feed byte).1)
    (deframer : Deframer) (bytes : List UInt8) (before : kept deframer) :
    kept (deframer.run bytes).deframer := by
  induction bytes generalizing deframer with
  | nil => exact before
  | cons byte rest ih =>
    have next := step deframer byte before
    rcases fed : deframer.feed byte with ⟨after, progress⟩
    rw [fed] at next
    by_cases goes : progress = .more
    · subst goes
      rw [run_cons_more _ _ _ _ fed]
      exact ih after next
    · rw [run_cons_ended _ _ _ _ _ fed goes]
      exact next

theorem length_body_feed_le (deframer : Deframer) (byte : UInt8)
    (bounded : deframer.body.length ≤ Frame.maxBody) :
    (deframer.feed byte).1.body.length ≤ Frame.maxBody := by
  rcases fed : deframer.feed byte with ⟨next, progress⟩
  cases fed_of_feed fed with
  | start | restart => exact Nat.zero_le _
  | stray | escape | finish | noise | full => exact bounded
  | literal taken room =>
    rw [List.length_append]
    exact room

/-- The body never outgrows its limit, whatever is fed. -/
theorem length_body_run_le (bytes : List UInt8) :
    (run {} bytes).deframer.body.length ≤ Frame.maxBody :=
  run_preserves (fun deframer => deframer.body.length ≤ Frame.maxBody) length_body_feed_le {} bytes
    (Nat.zero_le _)

/-- A run that has ended takes no notice of what comes behind it. -/
theorem run_append_of_ended (deframer : Deframer) (bytes more : List UInt8)
    (ended : (deframer.run bytes).progress ≠ .more) :
    deframer.run (bytes ++ more) = deframer.run bytes := by
  induction bytes generalizing deframer with
  | nil => exact absurd rfl ended
  | cons byte rest ih =>
    rcases fed : deframer.feed byte with ⟨next, progress⟩
    by_cases goes : progress = .more
    · subst goes
      rw [run_cons_more _ _ _ _ fed] at ended
      rw [List.cons_append, run_cons_more _ _ _ _ fed, run_cons_more _ _ _ _ fed, ih next ended]
    · rw [List.cons_append, run_cons_ended _ _ _ _ _ fed goes, run_cons_ended _ _ _ _ _ fed goes]

theorem run_of_prefix (deframer : Deframer) (bytes longer : List UInt8) (front : bytes <+: longer)
    (ended : (deframer.run bytes).progress ≠ .more) : deframer.run longer = deframer.run bytes := by
  obtain ⟨more, rfl⟩ := front
  exact run_append_of_ended deframer bytes more ended

theorem started_feed (deframer : Deframer) (byte : UInt8) : (deframer.feed byte).1.started = true := by
  rcases fed : deframer.feed byte with ⟨next, progress⟩
  cases fed_of_feed fed <;> rfl

/-- A fresh deframer has started exactly when there was a byte to feed. -/
theorem started_run (bytes : List UInt8) :
    (run {} bytes).deframer.started = true ↔ bytes ≠ [] := by
  cases bytes with
  | nil => simp [run]
  | cons byte rest =>
    have next := started_feed {} byte
    rcases fed : feed {} byte with ⟨after, progress⟩
    rw [fed] at next
    simp only [ne_eq, reduceCtorEq, not_false_eq_true, iff_true]
    by_cases goes : progress = .more
    · subst goes
      rw [run_cons_more _ _ _ _ fed]
      exact run_preserves (fun deframer => deframer.started = true)
        (fun deframer byte _ => started_feed deframer byte) after rest next
    · rw [run_cons_ended _ _ _ _ _ fed goes]
      exact next

end NodeBus.Deframer
