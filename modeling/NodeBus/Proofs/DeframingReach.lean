import Mathlib
import NodeBus.Proofs.Deframing

/-!
# The reach of the deframer

While a frame grows, its body limit bounds what is still to come: `reach` counts the bytes up to the end of
the run at the latest, and every byte uses it up. Two kinds of bytes do not: a start marker throws away
what was gathered, and the two lowest byte values are dropped. `taken_run_le` bounds a run by these
setbacks, and `taken_crowdedOver` fills the bound for every number of them.
-/
namespace NodeBus.Deframer
open Escape

/-- A byte that brings a frame no further: a restart, or noise. -/
def SetsBack (deframer : Deframer) (byte : UInt8) : Prop := deframer.phase = .inside ∧ byte < etx

instance (deframer : Deframer) (byte : UInt8) : Decidable (deframer.SetsBack byte) :=
  inferInstanceAs (Decidable (_ ∧ _))

/-- How many of some bytes set the frame back. -/
def setbacks (deframer : Deframer) : List UInt8 → Nat
  | [] => 0
  | byte :: rest => (if deframer.SetsBack byte then 1 else 0) + (deframer.feed byte).1.setbacks rest

/-- How many more bytes a run takes at most if none sets it back. -/
def reach (deframer : Deframer) : Nat :=
  match deframer.phase with
  | .hunting => 2 * Frame.maxBody + 3
  | .inside => 2 * (Frame.maxBody - deframer.body.length) + 2
  | .escaped => 2 * (Frame.maxBody - deframer.body.length) + 1

theorem setbacks_le_length (deframer : Deframer) (bytes : List UInt8) :
    deframer.setbacks bytes ≤ bytes.length := by
  induction bytes generalizing deframer with
  | nil => exact Nat.le_refl 0
  | cons byte rest ih =>
    have later := ih (deframer.feed byte).1
    simp only [setbacks, List.length_cons]
    split <;> omega

theorem reach_pos (deframer : Deframer) : 0 < deframer.reach := by
  unfold reach
  split <;> omega

/-- Every byte that goes on uses up reach, unless it sets the frame back. -/
theorem reach_feed (deframer next : Deframer) (byte : UInt8) (fed : deframer.feed byte = (next, .more)) :
    next.reach + 1 ≤
      deframer.reach + (2 * Frame.maxBody + 1) * if deframer.SetsBack byte then 1 else 0 := by
  cases fed_of_feed fed with
  | start hunting marker =>
    simp only [reach, hunting, List.length_nil]
    omega
  | escape inside marker =>
    simp only [reach, inside]
    omega
  | restart inside marker =>
    have back : deframer.SetsBack byte := ⟨inside, by rw [marker]; decide⟩
    simp only [reach, inside, back, if_true, List.length_nil]
    omega
  | noise inside low =>
    have back : deframer.SetsBack byte := ⟨inside, UInt8.lt_trans low (by decide)⟩
    simp only [reach, inside, back, if_true]
    omega
  | literal taken room =>
    rcases taken with escaped | ⟨inside, _⟩
    · simp only [reach, escaped, List.length_append, List.length_singleton]
      omega
    · simp only [reach, inside, List.length_append, List.length_singleton]
      omega

/-- A run takes no more bytes than its reach, and a frame's worth of them more for each setback. -/
theorem taken_run_le (deframer : Deframer) (bytes : List UInt8) :
    (deframer.run bytes).taken ≤ deframer.reach +
      (2 * Frame.maxBody + 1) * deframer.setbacks (bytes.take (deframer.run bytes).taken) := by
  induction bytes generalizing deframer with
  | nil => exact Nat.zero_le _
  | cons byte rest ih =>
    rcases fed : deframer.feed byte with ⟨next, progress⟩
    by_cases goes : progress = .more
    · subst goes
      -- a setback pays for the reach of a whole new frame
      have used := reach_feed deframer next byte fed
      have later := ih next
      rw [run_cons_more _ _ _ _ fed]
      simp only [List.take_succ_cons, setbacks, fed, Nat.mul_add]
      omega
    · have positive := deframer.reach_pos
      rw [run_cons_ended _ _ _ _ _ fed goes]
      exact Nat.le_add_right_of_le positive

/-- A run takes no more bytes than there are. -/
theorem taken_run_le_length (deframer : Deframer) (bytes : List UInt8) :
    (deframer.run bytes).taken ≤ bytes.length := by
  induction bytes generalizing deframer with
  | nil => exact Nat.le_refl 0
  | cons byte rest ih =>
    rcases fed : deframer.feed byte with ⟨next, progress⟩
    by_cases goes : progress = .more
    · subst goes
      rw [run_cons_more _ _ _ _ fed]
      exact Nat.succ_le_succ (ih next)
    · rw [run_cons_ended _ _ _ _ _ fed goes]
      exact Nat.succ_le_succ (Nat.zero_le _)

/-! ### Runs that never end -/

theorem taken_run_noise (deframer : Deframer) (count : Nat) (inside : deframer.phase = .inside) :
    (deframer.run (List.replicate count 0)).taken = count := by
  induction count generalizing deframer with
  | zero => rfl
  | succ count ih =>
    have fed : deframer.feed 0 = ({ deframer with started := true }, .more) := by
      simp only [feed, inside]
      rfl
    rw [List.replicate_succ, run_cons_more _ _ _ _ fed]
    exact congrArg (· + 1) (ih _ inside)

/-- Where a run has not ended it goes on with what comes next, and so does the count of setbacks. -/
theorem run_append_of_more (deframer : Deframer) (bytes rest : List UInt8)
    (unfinished : (deframer.run bytes).progress = .more) :
    (deframer.run (bytes ++ rest)).taken =
        bytes.length + ((deframer.run bytes).deframer.run rest).taken ∧
      deframer.setbacks (bytes ++ rest) =
        deframer.setbacks bytes + (deframer.run bytes).deframer.setbacks rest := by
  induction bytes generalizing deframer with
  | nil => exact ⟨(Nat.zero_add _).symm, (Nat.zero_add _).symm⟩
  | cons byte bytes ih =>
    rcases fed : deframer.feed byte with ⟨next, progress⟩
    by_cases goes : progress = .more
    · subst goes
      rw [run_cons_more _ _ _ _ fed] at unfinished
      obtain ⟨taken, setbacks⟩ := ih next unfinished
      rw [List.cons_append, run_cons_more _ _ _ _ fed, run_cons_more _ _ _ _ fed]
      simp only [Deframer.setbacks, fed, taken, setbacks, List.length_cons]
      omega
    · rw [run_cons_ended _ _ _ _ _ fed goes] at unfinished
      exact absurd unfinished goes

/-- A frame that is started, and filled up with escaped bytes. -/
def crowding : List UInt8 := stx :: (List.replicate Frame.maxBody [subst, 0xFF]).flatten

/-- The deframer with a full body. -/
def crowded : Deframer where
  phase := .inside
  body := List.replicate Frame.maxBody 0xFF
  started := true

/-- A frame that is filled up and started over some times, and then outgrows its limit. -/
def crowdedOver : Nat → List UInt8
  | 0 => [subst, 0xFF]
  | restarts + 1 => crowding ++ crowdedOver restarts

theorem taken_crowdedOver (restarts : Nat) :
    (crowded.run (crowdedOver restarts)).taken = (crowdedOver restarts).length ∧
      (crowdedOver restarts).length = (2 * Frame.maxBody + 1) * restarts + 2 ∧
      crowded.setbacks (crowdedOver restarts) = restarts := by
  induction restarts with
  | zero => decide +kernel
  | succ restarts ih =>
    have again : crowded.run crowding = ⟨crowded, .more, crowding.length⟩ := by decide +kernel
    have once : crowded.setbacks crowding = 1 := by decide +kernel
    have length : crowding.length = 2 * Frame.maxBody + 1 := by decide +kernel
    obtain ⟨taken, total, setbacks⟩ := ih
    obtain ⟨takenAll, setbacksAll⟩ :=
      run_append_of_more crowded crowding (crowdedOver restarts) (by rw [again])
    rw [again] at takenAll setbacksAll
    refine ⟨?_, ?_, ?_⟩
    · rw [crowdedOver, takenAll, taken, List.length_append]
    · rw [crowdedOver, List.length_append, length, total, Nat.mul_succ]
      omega
    · rw [crowdedOver, setbacksAll, once, setbacks, Nat.add_comm]

end NodeBus.Deframer
