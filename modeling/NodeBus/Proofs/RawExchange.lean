import NodeBus.Proofs.NodeCapabilities

/-!
# The raw exchange

A raw exchange is refused before it touches the bus, ends with its only write, or reads (`raw_cases`). What it reads is
the longest run (`IsRun`) at the front of the queue as it stands behind the write: reading takes as many of the audible
bytes as are expected (`hearAll_hearRaw`), and every run is a beginning of these (`IsRun.prefix_audible`). `raw_exchanged`
puts together what it returns, what it leaves in the queue and what it never changes.
-/
namespace NodeBus

namespace Bus

/-- Some items at the front of the queue are these bytes, not more than the limit, and each comes within the budget of the
start of its own wait. -/
structure IsRun (bus : Bus) (budget limit : Nat) (front : List Arrival) (bytes : List UInt8) : Prop where
  first : front <+: bus.queue
  items : front.map Arrival.item = bytes.map .byte
  steady : Steady budget bus.now front
  short : bytes.length ≤ limit

/-- The bytes of a run are among the first that can be heard. -/
theorem IsRun.prefix_audible {bus : Bus} {budget limit : Nat} {front : List Arrival} {bytes : List UInt8}
    (run : bus.IsRun budget limit front bytes) : bytes <+: (bus.audible budget).take limit :=
  List.prefix_take_iff.mpr ⟨audible_of_steady budget run.first run.steady run.items, run.short⟩

/-- The bytes are the longest run. Behind it at most a failing read is taken, which came in time when bytes were still
missing; all else is left. -/
structure IsReading (bus : Bus) (budget limit : Nat) (bytes : List UInt8) (left : List Arrival) : Prop where
  split : ∃ front failed, bus.queue = front ++ failed ++ left ∧ bus.IsRun budget limit front bytes ∧
    (failed = [] ∨
      failed.map Arrival.item = [.fault] ∧ bytes.length < limit ∧ Steady budget bus.now (front ++ failed))
  longest : ∀ front other, bus.IsRun budget limit front other → other <+: bytes

end Bus

/-- Is there something to write, and not more expected than fits the answer? -/
def RawRequest.IsValid (request : RawRequest) : Prop := request.tx.items ≠ [] ∧ request.expect.toNat ≤ 64

namespace Controller

/-- The bytes held at the end of a hearing. -/
def heldAfter {α : Type} : Hearing α α → α
  | .enough held => held
  | .more held => held

/-- A byte that is still expected finds room. -/
theorem hearRaw_eq {expect : Nat} {held : Bounded UInt8 maxRaw} (fits : expect ≤ maxRaw)
    (wanting : held.items.length < expect) (byte : UInt8) :
    ∃ next : Bounded UInt8 maxRaw, next.items = held.items ++ [byte] ∧
      hearRaw expect held byte = if next.items.length < expect then .more next else .enough next := by
  have room : held.items.length < maxRaw := Nat.lt_of_lt_of_le wanting fits
  have longer : (held.items ++ [byte]).length ≤ maxRaw := by simpa using Nat.succ_le_of_lt room
  exact ⟨⟨held.items ++ [byte], longer⟩, rfl, by simp only [hearRaw, Bounded.push?, dif_pos room]⟩

/-- A reader takes and holds the first bytes, as many as it still expects, and goes on only while some are missing. -/
theorem hearAll_hearRaw {expect : Nat} {held : Bounded UInt8 maxRaw} (fits : expect ≤ maxRaw)
    (wanting : held.items.length < expect) (bytes : List UInt8) :
    (heldAfter (hearAll (hearRaw expect) held bytes).1).items =
        held.items ++ bytes.take (expect - held.items.length) ∧
      bytes.take (hearAll (hearRaw expect) held bytes).2 = bytes.take (expect - held.items.length) ∧
      ∀ final, (hearAll (hearRaw expect) held bytes).1 = .more final → final.items.length < expect := by
  induction bytes generalizing held with
  | nil => simpa [hearAll, heldAfter] using wanting
  | cons byte rest ih =>
    obtain ⟨next, appended, heard⟩ := hearRaw_eq fits wanting byte
    have one : next.items.length = held.items.length + 1 := by
      rw [appended, List.length_append]
      rfl
    -- the byte is the first of those still missing, and the next state misses one less
    have missing : expect - held.items.length = expect - next.items.length + 1 := by omega
    rw [missing, List.take_succ_cons]
    simp only [hearAll, heard]
    by_cases more : next.items.length < expect
    · obtain ⟨holds, takes, lacks⟩ := ih more
      simp only [if_pos more]
      refine ⟨?_, ?_, lacks⟩
      · rw [holds, appended, List.append_assoc]
        rfl
      · rw [List.take_succ_cons, takes]
    · have full : expect - next.items.length = 0 := by omega
      simp only [if_neg more, full]
      refine ⟨appended, rfl, ?_⟩
      rintro final ⟨⟩

theorem script_readRaw (bus : Bus) (budget expect : Nat) : (readRaw bus budget expect).2.script = bus.script := by
  unfold readRaw Bus.listen
  split
  · rfl
  · rcases listenTo budget (hearRaw expect) .empty bus.now bus.queue with ⟨_ | _, _, _⟩ <;> rfl

theorem steady_of_append {budget now : Nat} {front behind : List Arrival} (steady : Steady budget now (front ++ behind)) :
    Steady budget now front := by
  induction front generalizing now with
  | nil => trivial
  | cons arrival rest ih => exact ⟨steady.1, ih steady.2⟩

/-- A reader that expects something listens. -/
theorem readRaw_of_ne_zero (bus : Bus) (budget : Nat) {expect : Nat} (wanted : expect ≠ 0) :
    (readRaw bus budget expect).1 = heldAfter (hearAll (hearRaw expect) .empty (bus.audible budget)).1 ∧
      (readRaw bus budget expect).2.queue = (listenTo budget (hearRaw expect) .empty bus.now bus.queue).2.2 := by
  have heard : (bus.listen budget (hearRaw expect) .empty).1 =
      (hearAll (hearRaw expect) .empty (bus.audible budget)).1 := listenTo_hearing ..
  have left : (bus.listen budget (hearRaw expect) .empty).2.queue =
      (listenTo budget (hearRaw expect) .empty bus.now bus.queue).2.2 := rfl
  rw [← heard, ← left, readRaw, if_neg wanted]
  rcases bus.listen budget (hearRaw expect) .empty with ⟨_ | _, _⟩ <;> exact ⟨rfl, rfl⟩

/-- Reading returns the longest run. -/
theorem isReading_readRaw (bus : Bus) (budget : Nat) {expect : Nat} (fits : expect ≤ maxRaw) :
    bus.IsReading budget expect (readRaw bus budget expect).1.items (readRaw bus budget expect).2.queue := by
  by_cases nothing : expect = 0
  · have idle : readRaw bus budget expect = (.empty, bus) := if_pos nothing
    rw [idle]
    refine ⟨⟨[], [], rfl, ⟨List.nil_prefix, rfl, trivial, Nat.zero_le _⟩, .inl rfl⟩, fun front other run => ?_⟩
    rw [List.length_eq_zero_iff.mp (Nat.le_zero.mp (nothing ▸ run.short) : other.length = 0)]
    exact List.nil_prefix
  · have wanting : (Bounded.empty : Bounded UInt8 maxRaw).items.length < expect := Nat.pos_of_ne_zero nothing
    obtain ⟨received, left⟩ := readRaw_of_ne_zero bus budget nothing
    obtain ⟨holds, takes, lacks⟩ := hearAll_hearRaw fits wanting (bus.audible budget)
    obtain ⟨run, failed, split, steady, items, ended⟩ :=
      listenTo_read budget (hearRaw expect) .empty bus.now bus.queue
    rw [received, left]
    -- nothing was held before, so that what is held are the first bytes
    have held : (heldAfter (hearAll (hearRaw expect) .empty (bus.audible budget)).1).items =
        (bus.audible budget).take expect := holds
    have isRun : bus.IsRun budget expect run
        (heldAfter (hearAll (hearRaw expect) .empty (bus.audible budget)).1).items := {
      first := ⟨failed ++ (listenTo budget (hearRaw expect) .empty bus.now bus.queue).2.2, by
        rw [← List.append_assoc, ← split]⟩
      items := by
        rw [held, items]
        exact congrArg (List.map Item.byte) takes
      steady := steady_of_append steady
      short := by
        rw [held]
        exact List.length_take_le _ _ }
    refine ⟨⟨run, failed, split, isRun, ?_⟩, fun front other otherRun => ?_⟩
    · rcases ended with unfailing | ⟨fault, final, goesOn⟩
      · exact .inl unfailing
      · refine .inr ⟨fault, ?_, steady⟩
        have last : (hearAll (hearRaw expect) .empty (bus.audible budget)).1 = .more final := goesOn
        rw [last]
        exact lacks final last
    · rw [held]
      exact otherRun.prefix_audible

/-- A raw exchange is refused, or ends with its write, or reads. -/
theorem raw_cases (controller : Controller) (request : RawRequest) :
    ¬ request.IsValid ∧ controller.raw request = (.error .invalidParam, controller) ∨
    request.IsValid ∧ ¬ controller.bus.Takes request.txTimeout.toNat ∧
      controller.raw request = (.error .txTimeout,
        { controller with bus := (controller.bus.write request.txTimeout.toNat request.tx.items).2 }) ∨
    request.IsValid ∧ controller.bus.Takes request.txTimeout.toNat ∧
      ∃ received bus, readRaw (controller.bus.write request.txTimeout.toNat request.tx.items).2
          request.rxTimeout.toNat request.expect.toNat = (received, bus) ∧
        controller.raw request = (.ok received, { controller with bus }) := by
  have invalid : ¬ request.IsValid ↔ request.tx.items = [] ∨ maxRaw < request.expect.toNat := by
    rw [RawRequest.IsValid, not_and_or, not_not, Nat.not_le]
    rfl
  by_cases valid : request.IsValid
  · have took := controller.bus.write_taken_iff request.txTimeout.toNat request.tx.items
    rw [raw, if_neg (mt invalid.mpr (not_not.mpr valid))]
    rcases result : controller.bus.write request.txTimeout.toNat request.tx.items with ⟨taken, bus⟩
    rw [result] at took
    cases taken with
    | false => exact .inr (.inl ⟨valid, mt took.mpr Bool.false_ne_true, rfl⟩)
    | true => exact .inr (.inr ⟨valid, took.mp rfl, _, _, rfl, rfl⟩)
  · exact .inl ⟨valid, if_pos (invalid.mp valid)⟩

/-- What a raw exchange does. -/
structure RawLaw (controller : Controller) (request : RawRequest) : Prop where
  invalidParam : (controller.raw request).1 = .error .invalidParam ↔ ¬ request.IsValid
  untouched : ¬ request.IsValid → (controller.raw request).2.bus = controller.bus
  writtenOnce : request.IsValid → (controller.raw request).2.bus.script = controller.bus.script.tail ∧
    (controller.raw request).2.bus.written = controller.bus.written ++
      if controller.bus.Takes request.txTimeout.toNat then [request.tx.items] else []
  txTimeout : request.IsValid →
    ((controller.raw request).1 = .error .txTimeout ↔ ¬ controller.bus.Takes request.txTimeout.toNat)
  unread : request.IsValid → ¬ controller.bus.Takes request.txTimeout.toNat →
    (controller.raw request).2.bus.queue = controller.bus.queue
  /-- What the reply brings stands behind all that was queued before. -/
  incoming : request.IsValid → controller.bus.Takes request.txTimeout.toNat →
    (controller.bus.write request.txTimeout.toNat request.tx.items).2.queue = controller.bus.queue ++
      arrivals (controller.bus.script.headD {}).gap
        (controller.bus.now + (controller.bus.script.headD {}).write + (controller.bus.script.headD {}).after)
        ((controller.bus.queue.getLast?.map Arrival.time).getD 0) (controller.bus.script.headD {}).items
  read : request.IsValid → controller.bus.Takes request.txTimeout.toNat →
    ∃ received, (controller.raw request).1 = .ok received ∧
      (controller.bus.write request.txTimeout.toNat request.tx.items).2.IsReading request.rxTimeout.toNat
        request.expect.toNat received.items (controller.raw request).2.bus.queue
  statistics : (controller.raw request).2.statistics = controller.statistics
  nodes : (controller.raw request).2.nodes = controller.nodes
  settings : (controller.raw request).2.settings = controller.settings

/-- **A raw exchange writes once and reads the longest run that comes in time.** -/
theorem raw_exchanged (controller : Controller) (request : RawRequest) : RawLaw controller request := by
  have script := controller.bus.script_write request.txTimeout.toNat request.tx.items
  have written := controller.bus.written_write request.txTimeout.toNat request.tx.items
  rcases controller.raw_cases request with
    ⟨invalid, result⟩ | ⟨valid, refused, result⟩ | ⟨valid, taken, received, bus, reading, result⟩
  · constructor <;> simp [result, invalid]
  · have unread := controller.bus.queue_write_untaken _ request.tx.items refused
    constructor <;> simp [result, valid, refused, script, written, unread]
  · have keptScript := script_readRaw (controller.bus.write request.txTimeout.toNat request.tx.items).2
      request.rxTimeout.toNat request.expect.toNat
    have keptWritten := written_readRaw (controller.bus.write request.txTimeout.toNat request.tx.items).2
      request.rxTimeout.toNat request.expect.toNat
    have longest := isReading_readRaw (controller.bus.write request.txTimeout.toNat request.tx.items).2
      request.rxTimeout.toNat valid.2
    rw [reading] at keptScript keptWritten longest
    exact {
      invalidParam := by simp [result, valid]
      untouched := fun invalid => absurd valid invalid
      writtenOnce := by
        intro _
        rw [result]
        exact ⟨keptScript.trans script, keptWritten.trans written⟩
      txTimeout := by simp [result, taken]
      unread := fun _ refused => absurd taken refused
      incoming := fun _ _ => (controller.bus.queue_write _ request.tx.items taken).2
      read := by
        intro _ _
        rw [result]
        exact ⟨received, rfl, longest⟩
      statistics := by rw [result]
      nodes := by rw [result]
      settings := by rw [result] }

end Controller

end NodeBus
