import Mathlib
import NodeBus.Bus

/-!
# What a listener hears

Reading the queue mixes two things: when bytes arrive, and what the listener makes of them. They are taken
apart here. `audible` are the bytes that can be read one by one, each within the budget counted from the
start of its own wait; `hearAll` runs a listener over plain bytes. `listenTo_spec` shows that reading the
queue is running the listener over the audible bytes, and that what it took stood at the front of the
queue; `listenTo_read` tells item by item what that was.

A write is taken by the port when the reply it uses up neither stalls, nor fails, nor outlasts the budget
(`write_taken_iff`), and only then adds the bytes of that reply behind those already queued
(`bytesOf_queue_write`).
-/
namespace NodeBus

/-- The byte an arrival brings, if it brings one. -/
def Arrival.byte? (arrival : Arrival) : Option UInt8 :=
  match arrival.item with
  | .byte value => some value
  | .fault => none

/-- The bytes among some arrivals. -/
def bytesOf (queue : List Arrival) : List UInt8 := queue.filterMap Arrival.byte?

/-- The bytes that can be read one by one from `now` on, each within `budget` of the start of its own
wait. A read error ends them, and so does a byte that comes too late. -/
def audible (budget now : Nat) : List Arrival → List UInt8
  | ⟨.byte value, time⟩ :: rest =>
    if time ≤ now + budget then value :: audible budget (max now time) rest else []
  | _ => []

/-- The items come one by one from `now` on, each within `budget` of the start of its own wait. -/
def Steady (budget now : Nat) : List Arrival → Prop
  | [] => True
  | arrival :: rest => arrival.time ≤ now + budget ∧ Steady budget (max now arrival.time) rest

/-- What a listener makes of some bytes, and how many of them it takes. -/
def hearAll {ρ σ : Type} (hear : σ → UInt8 → Hearing ρ σ) (state : σ) : List UInt8 → Hearing ρ σ × Nat
  | [] => (.more state, 0)
  | byte :: rest =>
    match hear state byte with
    | .enough result => (.enough result, 1)
    | .more state =>
      let (hearing, taken) := hearAll hear state rest
      (hearing, taken + 1)

/-- The bytes that can be read one by one from a bus, each within `budget`. -/
def Bus.audible (bus : Bus) (budget : Nat) : List UInt8 := NodeBus.audible budget bus.now bus.queue

section Listener

variable {ρ σ : Type} (hear : σ → UInt8 → Hearing ρ σ)

theorem hearAll_single (state : σ) (byte : UInt8) : hearAll hear state [byte] = (hear state byte, 1) := by
  simp only [hearAll]
  cases hear state byte <;> rfl

/-- A listener that goes on is continued where it stands. -/
theorem hearAll_append_of_more {state next : σ} {bytes : List UInt8} {count : Nat}
    (goesOn : hearAll hear state bytes = (.more next, count)) (rest : List UInt8) :
    hearAll hear state (bytes ++ rest) =
      ((hearAll hear next rest).1, count + (hearAll hear next rest).2) := by
  induction bytes generalizing state count with
  | nil =>
    obtain ⟨same, none⟩ := Prod.mk.inj goesOn
    obtain rfl := Hearing.more.inj same
    simp [← none]
  | cons byte bytes ih =>
    rw [List.cons_append]
    simp only [hearAll] at goesOn ⊢
    cases heard : hear state byte with
    | enough result => simp [heard] at goesOn
    | more after =>
      rw [heard] at goesOn
      obtain ⟨same, one⟩ := Prod.mk.inj goesOn
      have begun : hearAll hear after bytes = (.more next, (hearAll hear after bytes).2) := Prod.ext same rfl
      simp only [ih begun, ← one]
      rw [Nat.add_right_comm]

/-- A listener that has enough takes no notice of what comes behind. -/
theorem hearAll_append_of_enough {state : σ} {bytes : List UInt8} {result : ρ} {count : Nat}
    (enough : hearAll hear state bytes = (.enough result, count)) (rest : List UInt8) :
    hearAll hear state (bytes ++ rest) = (.enough result, count) := by
  induction bytes generalizing state count with
  | nil => cases enough
  | cons byte bytes ih =>
    rw [List.cons_append]
    simp only [hearAll] at enough ⊢
    cases heard : hear state byte with
    | enough first =>
      rw [heard] at enough
      exact enough
    | more after =>
      rw [heard] at enough
      obtain ⟨same, one⟩ := Prod.mk.inj enough
      have later : hearAll hear after bytes = (.enough result, (hearAll hear after bytes).2) := Prod.ext same rfl
      simp only [ih later, ← one]

end Listener

section Reading

variable {ρ σ : Type} (budget : Nat) (hear : σ → UInt8 → Hearing ρ σ)

theorem audible_prefix (now : Nat) (queue : List Arrival) : audible budget now queue <+: bytesOf queue := by
  induction queue generalizing now with
  | nil => exact List.nil_prefix
  | cons arrival rest ih =>
    obtain ⟨item, time⟩ := arrival
    cases item with
    | fault => exact List.nil_prefix
    | byte value =>
      by_cases inTime : time ≤ now + budget
      · have heard : audible budget now (⟨.byte value, time⟩ :: rest)
            = value :: audible budget (max now time) rest := if_pos inTime
        rw [heard]
        exact List.cons_prefix_cons.mpr ⟨rfl, ih _⟩
      · have heard : audible budget now (⟨.byte value, time⟩ :: rest) = [] := if_neg inTime
        rw [heard]
        exact List.nil_prefix

theorem bytesOf_of_items {arrived : List Arrival} {bytes : List UInt8}
    (items : arrived.map Arrival.item = bytes.map .byte) : bytesOf arrived = bytes := by
  induction arrived generalizing bytes with
  | nil =>
    have nothing : bytes = [] := List.map_eq_nil_iff.mp items.symm
    exact nothing.symm
  | cons arrival rest ih =>
    obtain ⟨item, time⟩ := arrival
    cases bytes with
    | nil => cases items
    | cons byte bytes =>
      obtain ⟨first, others⟩ := List.cons.inj items
      subst first
      exact congrArg (byte :: ·) (ih others)

/-- Bytes at the front of the queue that come steadily can be heard. -/
theorem audible_of_steady {now : Nat} {front queue : List Arrival} {bytes : List UInt8}
    (first : front <+: queue) (steady : Steady budget now front)
    (items : front.map Arrival.item = bytes.map .byte) : bytes <+: audible budget now queue := by
  obtain ⟨behind, whole⟩ := first
  subst whole
  induction front generalizing now bytes with
  | nil =>
    have nothing : bytes = [] := List.map_eq_nil_iff.mp items.symm
    subst nothing
    exact List.nil_prefix
  | cons arrival rest ih =>
    obtain ⟨item, time⟩ := arrival
    obtain ⟨inTime, later⟩ := steady
    cases bytes with
    | nil => exact List.nil_prefix
    | cons byte bytes =>
      obtain ⟨first, others⟩ := List.cons.inj items
      subst first
      have heard : audible budget now (⟨.byte byte, time⟩ :: (rest ++ behind)) =
          byte :: audible budget (max now time) (rest ++ behind) := if_pos inTime
      rw [List.cons_append, heard]
      exact List.cons_prefix_cons.mpr ⟨rfl, ih later others⟩

theorem audible_of_late {now : Nat} {item : Item} {time : Nat} {behind : List Arrival}
    (late : ¬ time ≤ now + budget) : audible budget now (⟨item, time⟩ :: behind) = [] := by
  cases item with
  | fault => rfl
  | byte value => exact if_neg late

/-- Reading the queue comes to what the listener makes of the audible bytes. -/
theorem listenTo_hearing (state : σ) (now : Nat) (queue : List Arrival) :
    (listenTo budget hear state now queue).1 = (hearAll hear state (audible budget now queue)).1 := by
  induction queue generalizing state now with
  | nil => rfl
  | cons arrival rest ih =>
    obtain ⟨item, time⟩ := arrival
    by_cases inTime : time ≤ now + budget
    · cases item with
      | fault => simp only [listenTo, Arrival.within, inTime, if_true, audible, hearAll]
      | byte value =>
        simp only [listenTo, Arrival.within, inTime, if_true, audible, hearAll]
        cases hear state value with
        | enough result => rfl
        | more state => exact ih state (max now time)
    · rw [audible_of_late budget inTime]
      simp only [listenTo, Arrival.within, inTime, if_false, hearAll]

/-- What is taken from the front of the queue came steadily. It is as many of the audible bytes as the
listener takes, and perhaps a failing read behind them, which ends the hearing. -/
theorem listenTo_read (state : σ) (now : Nat) (queue : List Arrival) :
    ∃ read failed, queue = read ++ failed ++ (listenTo budget hear state now queue).2.2 ∧
      Steady budget now (read ++ failed) ∧
      read.map Arrival.item = ((audible budget now queue).take
        (hearAll hear state (audible budget now queue)).2).map .byte ∧
      (failed = [] ∨ failed.map Arrival.item = [.fault] ∧
        ∃ final, (hearAll hear state (audible budget now queue)).1 = .more final) := by
  induction queue generalizing state now with
  | nil => exact ⟨[], [], rfl, trivial, rfl, .inl rfl⟩
  | cons arrival rest ih =>
    obtain ⟨item, time⟩ := arrival
    by_cases inTime : time ≤ now + budget
    · cases item with
      | fault =>
        simp only [listenTo, Arrival.within, inTime, if_true, audible, hearAll]
        exact ⟨[], [⟨.fault, time⟩], rfl, ⟨inTime, trivial⟩, rfl, .inr ⟨rfl, state, rfl⟩⟩
      | byte value =>
        simp only [listenTo, Arrival.within, inTime, if_true, audible, hearAll]
        cases hear state value with
        | enough result => exact ⟨[⟨.byte value, time⟩], [], rfl, ⟨inTime, trivial⟩, rfl, .inl rfl⟩
        | more state =>
          obtain ⟨read, failed, split, steady, items, ended⟩ := ih state (max now time)
          refine ⟨⟨.byte value, time⟩ :: read, failed, ?_, ⟨inTime, steady⟩, ?_, ended⟩
          · exact congrArg (⟨.byte value, time⟩ :: ·) split
          · exact congrArg (.byte value :: ·) items
    · rw [audible_of_late budget inTime]
      simp only [listenTo, Arrival.within, inTime, if_false, hearAll]
      exact ⟨[], [], rfl, trivial, rfl, .inl rfl⟩

/-- Reading the queue comes to what the listener makes of the audible bytes, and takes as many of them
from the front of the queue. A failing read is taken off too, but brings no byte. -/
theorem listenTo_spec (state : σ) (now : Nat) (queue : List Arrival) :
    (listenTo budget hear state now queue).1 = (hearAll hear state (audible budget now queue)).1 ∧
    ∃ read, queue = read ++ (listenTo budget hear state now queue).2.2 ∧
      bytesOf read = (audible budget now queue).take (hearAll hear state (audible budget now queue)).2 := by
  obtain ⟨read, failed, split, -, items, ended⟩ := listenTo_read budget hear state now queue
  have silent : bytesOf failed = [] := by
    rcases ended with nothing | ⟨fault, -⟩
    · rw [nothing]
      rfl
    · obtain ⟨arrival, only, failing⟩ := List.map_eq_singleton_iff.mp fault
      simp only [only, bytesOf, List.filterMap_cons, List.filterMap_nil, Arrival.byte?, failing]
  refine ⟨listenTo_hearing budget hear state now queue, read ++ failed, split, ?_⟩
  rw [bytesOf, List.filterMap_append]
  change bytesOf read ++ bytesOf failed = _
  rw [silent, List.append_nil, bytesOf_of_items items]

end Reading

theorem length_bytesOf_le (queue : List Arrival) : (bytesOf queue).length ≤ queue.length :=
  List.length_filterMap_le _ _

/-- When as many bytes were read as there were items in the queue, none of them is left. -/
theorem nil_of_all_read {queue read left : List Arrival} (split : queue = read ++ left)
    (all : queue.length = (bytesOf read).length) : left = [] := by
  have bound := length_bytesOf_le read
  have total := congrArg List.length split
  rw [List.length_append] at total
  exact List.length_eq_zero_iff.mp (by omega)

theorem length_arrivals (gap time floor : Nat) (items : List Item) :
    (arrivals gap time floor items).length = items.length := by
  induction items generalizing time floor with
  | nil => rfl
  | cons item rest ih => exact congrArg (· + 1) (ih _ _)

/-- Bytes that come no further apart than the budget are all heard. -/
theorem audible_arrivals (budget now gap time floor : Nat) (bytes : List UInt8)
    (first : max time floor ≤ now + budget) (steady : gap ≤ budget) :
    audible budget now (arrivals gap time floor (bytes.map .byte)) = bytes := by
  induction bytes generalizing now time floor with
  | nil => rfl
  | cons byte rest ih =>
    have next : max (time + gap) (max time floor) ≤ max now (max time floor) + budget := by omega
    simp only [List.map_cons, arrivals, audible, first, if_true]
    rw [ih _ _ _ next]

namespace Bus

/-- The port takes a write in its budget: the reply it uses up neither stalls nor fails, and the write
is over in time. -/
def Takes (bus : Bus) (budget : Nat) : Prop :=
  (bus.script.headD {}).stalls = false ∧ (bus.script.headD {}).write ≤ budget ∧
    (bus.script.headD {}).fails = false

instance (bus : Bus) (budget : Nat) : Decidable (bus.Takes budget) :=
  inferInstanceAs (Decidable (_ ∧ _ ∧ _))

theorem write_taken_iff (bus : Bus) (budget : Nat) (data : List UInt8) :
    (bus.write budget data).1 = true ↔ bus.Takes budget := by
  unfold write Takes
  generalize bus.script.headD {} = reply
  rw [← Nat.not_lt]
  cases stalls : reply.stalls <;> cases fails : reply.fails <;>
    by_cases slow : budget < reply.write <;> simp [stalls, fails, slow]

theorem bytesOf_arrivals (gap time floor : Nat) (items : List Item) :
    bytesOf (arrivals gap time floor items) = bytesOf (items.map fun item => ⟨item, 0⟩) := by
  induction items generalizing time floor with
  | nil => rfl
  | cons item rest ih =>
    cases item with
    | byte value => exact congrArg (value :: ·) (ih _ _)
    | fault => exact ih _ _

theorem bytesOf_items (reply : Reply) :
    bytesOf (reply.items.map fun item => ⟨item, 0⟩) = reply.bytes := by
  have bytes : bytesOf ((reply.bytes.map Item.byte).map fun item => ⟨item, 0⟩) = reply.bytes :=
    bytesOf_of_items (by rw [List.map_map]; exact List.map_id _)
  have faults : bytesOf ((if reply.readFails then [Item.fault] else []).map fun item => ⟨item, 0⟩) = [] := by
    split <;> rfl
  rw [Reply.items, List.map_append, bytesOf, List.filterMap_append]
  change bytesOf _ ++ bytesOf _ = _
  rw [bytes, faults, List.append_nil]

/-- A write that is taken queues the items of its reply behind all that were queued before. -/
theorem queue_write (bus : Bus) (budget : Nat) (data : List UInt8) (taken : bus.Takes budget) :
    (bus.write budget data).2.now = bus.now + (bus.script.headD {}).write ∧
      (bus.write budget data).2.queue = bus.queue ++ arrivals (bus.script.headD {}).gap
        (bus.now + (bus.script.headD {}).write + (bus.script.headD {}).after)
        ((bus.queue.getLast?.map Arrival.time).getD 0) (bus.script.headD {}).items := by
  obtain ⟨stalls, slow, fails⟩ := taken
  have notSlow : ¬ budget < (bus.script.headD {}).write := Nat.not_lt.mpr slow
  simp only [write, stalls, notSlow, fails, Bool.false_eq_true, or_self, if_false]
  exact ⟨rfl, rfl⟩

/-- What a node says on its own to an empty queue is heard in full, if it starts in time and goes on. -/
theorem audible_deliver (bus : Bus) (frame : Reply) (later gap : Nat) (nothing : bus.queue = [])
    (faultless : frame.readFails = false) (inTime : frame.after ≤ later + gap) (steady : frame.gap ≤ gap) :
    ((bus.deliver frame).pause later).audible gap = frame.bytes ∧
      ((bus.deliver frame).pause later).queue.length = frame.bytes.length := by
  have items : frame.items = frame.bytes.map .byte := by
    rw [Reply.items, faultless]
    exact List.append_nil _
  have queue : (bus.deliver frame).queue =
      arrivals frame.gap (bus.now + frame.after) 0 (frame.bytes.map .byte) := by
    rw [deliver, nothing, items]
    rfl
  constructor
  · change NodeBus.audible gap (bus.now + later) (bus.deliver frame).queue = _
    rw [queue]
    exact audible_arrivals _ _ _ _ _ _ (by omega) steady
  · change (bus.deliver frame).queue.length = _
    rw [queue, length_arrivals, List.length_map]

/-- A write that is refused uses up its reply and some time, and nothing else. -/
theorem write_untaken (bus : Bus) (budget : Nat) (data : List UInt8) (refused : ¬ bus.Takes budget) :
    ∃ milliseconds, (bus.write budget data).2 = pause { bus with script := bus.script.tail } milliseconds := by
  have notWritten := mt (bus.write_taken_iff budget data).mp refused
  unfold write at notWritten ⊢
  dsimp only at notWritten ⊢
  split
  · exact ⟨_, rfl⟩
  · split
    · exact ⟨_, rfl⟩
    · rename_i inTime sent
      simp only [inTime, sent, Bool.false_eq_true, if_false, not_true_eq_false] at notWritten

theorem queue_write_untaken (bus : Bus) (budget : Nat) (data : List UInt8)
    (refused : ¬ bus.Takes budget) : (bus.write budget data).2.queue = bus.queue := by
  obtain ⟨milliseconds, written⟩ := bus.write_untaken budget data refused
  rw [written]
  rfl

/-- Each write uses up one reply of the script. -/
theorem script_write (bus : Bus) (budget : Nat) (data : List UInt8) :
    (bus.write budget data).2.script = bus.script.tail := by
  unfold write
  dsimp only
  split
  · rfl
  · split <;> rfl

/-- Only a write that is taken is on record. -/
theorem written_write (bus : Bus) (budget : Nat) (data : List UInt8) :
    (bus.write budget data).2.written = bus.written ++ if bus.Takes budget then [data] else [] := by
  by_cases taken : bus.Takes budget
  · obtain ⟨stalls, slow, fails⟩ := taken
    have notSlow : ¬ budget < (bus.script.headD {}).write := Nat.not_lt.mpr slow
    rw [if_pos ⟨stalls, slow, fails⟩]
    simp only [write, stalls, notSlow, fails, Bool.false_eq_true, or_self, if_false]
    rfl
  · obtain ⟨milliseconds, written⟩ := bus.write_untaken budget data taken
    rw [if_neg taken, List.append_nil, written]
    rfl

theorem bytesOf_queue_write (bus : Bus) (budget : Nat) (data : List UInt8) (taken : bus.Takes budget) :
    bytesOf (bus.write budget data).2.queue = bytesOf bus.queue ++ (bus.script.headD {}).bytes := by
  rw [(bus.queue_write budget data taken).2, bytesOf, List.filterMap_append]
  change bytesOf _ ++ bytesOf _ = _
  rw [bytesOf_arrivals, bytesOf_items]

end Bus

end NodeBus
