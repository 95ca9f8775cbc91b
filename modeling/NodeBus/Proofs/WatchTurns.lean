import NodeBus.Proofs.ConnectionsApart
import NodeBus.Proofs.MonitorHandlers

/-!
# What a turn does to the watch set

It is said in one equation (`Turns.items_eq`): some entries are lost (`EventLoop.loses`), the others are kept in
order with at most their flag changed (`Deed.marks`), and a monitor that was accepted is entered behind them
(`Deed.entered`).

Connections go by numbers of their own (`Distinct`).
-/
namespace NodeBus

/-- What a line asks about the announcing of interrupts. -/
def Monitor.toggle? (line : List Char) : Option Bool :=
  match Monitor.parse line with
  | .ok .interruptsOn => some true
  | .ok .interruptsOff => some false
  | _ => none

/-- What a line asks is done whatever was asked before. -/
theorem Service.report_answerLine (controller : Controller) (report : Bool) (line : List Char) :
    (Service.answerLine controller report line).report = (Monitor.toggle? line).getD report := by
  unfold Service.answerLine Monitor.toggle?
  rcases Monitor.parse line with error | (packet | _ | _)
  · rfl
  · dsimp only
    split <;> rfl
  · rfl
  · rfl

/-- The answer does not depend on whether interrupts are announced. -/
theorem Service.reply_answerLine (controller : Controller) (report : Bool) (line : List Char) :
    (Service.answerLine controller report line).reply = (Service.answerLine controller false line).reply := by
  unfold Service.answerLine
  rcases Monitor.parse line with error | (packet | _ | _)
  · rfl
  · dsimp only
    split <;> rfl
  · rfl
  · rfl

/-- What a deed says about the announcing of interrupts to a connection: it starts off, and lines turn it on and
off. -/
def Deed.reporting? (deed : Deed) (stream : Nat) : Option Bool :=
  match deed with
  | .monitorAccepted accepted => if accepted = stream then some false else none
  | .line author bytes => if author = stream then Monitor.toggle? (Text.decodeLossy bytes) else none
  | _ => none

/-- An entry after a deed that keeps it. -/
def Deed.marks (deed : Deed) (entry : WatchEntry Endpoint) : WatchEntry Endpoint :=
  { entry with report := (entry.connection.monitor?.bind deed.reporting?).getD entry.report }

/-- The entry that a deed adds. -/
def Deed.entered : Deed → List (WatchEntry Endpoint)
  | .monitorAccepted stream => [⟨.connectedText, .monitor stream, false⟩]
  | _ => []

theorem Deed.marks_eq_self {deed : Deed} {entry : WatchEntry Endpoint}
    (silent : ∀ stream, entry.connection = .monitor stream → deed.reporting? stream = none) :
    deed.marks entry = entry := by
  obtain ⟨kind, connection, report⟩ := entry
  cases connection with
  | monitor stream => simp [marks, Endpoint.monitor?, silent stream rfl]
  | _ => rfl

@[simp] theorem Deed.isFor_marks (deed : Deed) (stream : Nat) (entry : WatchEntry Endpoint) :
    (deed.marks entry).isFor stream = entry.isFor stream := rfl

@[simp] theorem monitorsOf_map_marks (deed : Deed) (entries : List (WatchEntry Endpoint)) :
    monitorsOf (entries.map deed.marks) = monitorsOf entries := by
  simp [monitorsOf, List.filterMap_map, Function.comp_def, Deed.marks]

theorem monitorsOf_append (first second : List (WatchEntry Endpoint)) :
    monitorsOf (first ++ second) = monitorsOf first ++ monitorsOf second := List.filterMap_append

namespace EventLoop

/-- The answer to a line, as the loop stands. -/
def reply (loop : EventLoop) (line : List UInt8) : Monitor.Reply :=
  (Service.answerLine loop.controller false (Text.decodeLossy line)).reply

/-- Is the entry removed? A monitor that is over is, and one that the answer to its line or a notice can not be
written to. -/
def loses (loop : EventLoop) : Deed → WatchEntry Endpoint → Bool
  | .monitorDropped dropped, entry => entry.isFor dropped
  | .line author line, entry =>
    entry.isFor author && ((loop.streams author).write? (replyBytes (loop.reply line))).isNone
  | .burst (some interrupt), entry => loop.failsToHear (replyBytes (Monitor.notice interrupt)) entry
  | _, _ => false

/-! ### Connections go by numbers of their own -/

/-- The connections that the loop has accepted and not closed yet. -/
def taken (loop : EventLoop) : List Nat :=
  monitorsOf loop.watch.items ++
    match loop.activity with
    | .receiving stream _ => [stream]
    | _ => []

/-- No number goes for two connections, those that are still to connect included. -/
structure Distinct (loop : EventLoop) (later : List Nat) : Prop where
  taken : loop.taken.Nodup
  waiting : ∀ listener, (loop.waiting listener).Nodup
  oneListener : ∀ first second stream, stream ∈ loop.waiting first → stream ∈ loop.waiting second →
    first = second
  expected : ∀ listener, ∀ stream ∈ loop.waiting listener, stream ∉ loop.taken
  once : later.Nodup
  fresh : ∀ stream ∈ later, stream ∉ loop.taken ∧ ∀ listener, stream ∉ loop.waiting listener

variable {loop next : EventLoop} {deed : Deed} {later : List Nat}

theorem Distinct.monitors (distinct : loop.Distinct later) : (monitorsOf loop.watch.items).Nodup :=
  distinct.taken.sublist (List.sublist_append_left _ _)

/-! ### What a turn does to the watch set -/

theorem items_eq_of_quiet (same : next.watch = loop.watch) (silent : ∀ stream, deed.reporting? stream = none)
    (keeps : ∀ entry, loop.loses deed entry = false) (enters : deed.entered = []) :
    next.watch.items =
      (loop.watch.items.filter fun entry => !loop.loses deed entry).map deed.marks ++ deed.entered := by
  have unmarked : deed.marks = id := funext fun entry => Deed.marks_eq_self fun stream _ => silent stream
  simp [same, keeps, enters, unmarked]

/-- Marking the entry of the author of a line is marking it as the deed says. -/
theorem marked_eq_marks {index stream : Nat} {kind : Kind} {report : Bool} (line : List UInt8)
    (distinct : loop.Distinct later)
    (watched : loop.watch.items[index]? = some ⟨kind, .monitor stream, report⟩) :
    loop.watch.items.map
        (marked stream (Service.answerLine loop.controller report (Text.decodeLossy line)).report) =
      loop.watch.items.map (Deed.line stream line).marks := by
  apply List.map_congr_left
  intro entry member
  by_cases held : entry.isFor stream = true
  · have once := countP_isFor_le_one distinct.monitors stream
    obtain rfl : entry = ⟨kind, .monitor stream, report⟩ :=
      eq_of_countP_le_one once (List.mem_of_getElem? watched) (by simp) member held
    simp [marked, Deed.marks, Deed.reporting?, Endpoint.monitor?, Service.report_answerLine, WatchEntry.isFor]
  · rw [Deed.marks_eq_self]
    · simp [marked, held]
    · rintro other connection
      have different : stream ≠ other := by
        rintro rfl
        simp [connection] at held
      simp [Deed.reporting?, different]

/-- **What a turn does to the watch set.** -/
theorem Turns.items_eq (turns : Turns loop deed next) (distinct : loop.Distinct later) :
    next.watch.items =
      (loop.watch.items.filter fun entry => !loop.loses deed entry).map deed.marks ++ deed.entered := by
  cases turns with
  | ended | requested | busFailed | commandAccepted | lineBegun | abandoned =>
    exact items_eq_of_quiet rfl (fun _ => rfl) (fun _ => rfl) rfl
  | commandServed stream =>
    obtain ⟨streams, served⟩ := serveCommand_frame { loop with activity := .idle } stream
    exact items_eq_of_quiet (by rw [served]) (fun _ => rfl) (fun _ => rfl) rfl
  | burst =>
    rcases raised : loop.controller.serviceInterrupt with ⟨_ | interrupt, controller⟩
    · rw [loop.serviceBus_none raised]
      exact items_eq_of_quiet rfl (fun _ => rfl) (fun _ => rfl) rfl
    · obtain ⟨watch, serviced, left⟩ := loop.serviceBus_some raised distinct.monitors
      have unmarked : (Deed.burst (some interrupt)).marks = id :=
        funext fun entry => Deed.marks_eq_self fun _ _ => rfl
      rw [serviced]
      simp [left, unmarked, Deed.entered, loses]
  | monitorConnects listener stream idle first =>
    rcases (loop.accept listener).addMonitor_eq stream with ⟨watch, added, items, -⟩ | ⟨refused, -⟩
    · have unmarked : loop.watch.items.map (Deed.monitorAccepted stream).marks = loop.watch.items.map id := by
        apply List.map_congr_left
        intro entry member
        apply Deed.marks_eq_self
        intro other connection
        have different : stream ≠ other := by
          rintro rfl
          have taken : stream ∈ loop.taken :=
            List.mem_append_left _ (mem_monitorsOf.mpr ⟨entry, member, connection⟩)
          exact distinct.expected listener stream (List.mem_of_mem_head? first) taken
        simp [Deed.reporting?, different]
      rw [added]
      simp [items, EventLoop.accept, loses, unmarked, Deed.entered]
    · rw [refused]
      exact items_eq_of_quiet rfl (fun _ => rfl) (fun _ => rfl) rfl
  | monitorDropped index stream kind report watched =>
    obtain ⟨watch, dropped, left⟩ := dropMonitor_eq { loop with activity := .idle } watched
    have once := countP_isFor_le_one distinct.monitors stream
    have unmarked : (Deed.monitorDropped stream).marks = id :=
      funext fun entry => Deed.marks_eq_self fun _ _ => rfl
    rw [dropped]
    simp [setStream, left, unmarked, Deed.entered, loses, eraseIdx_eq_filter once watched]
  | line index stream kind report bytes rest watched =>
    obtain ⟨watch, answered, left⟩ :=
      answerLine_eq { loop with activity := .idle } bytes rest distinct.monitors watched
    rw [answered]
    simp only [setStream, left, marked_eq_marks bytes distinct watched]
    simp [List.filter_map, Function.comp_def, loses, Deed.entered]

theorem Turns.monitors_eq (turns : Turns loop deed next) (distinct : loop.Distinct later) :
    monitorsOf next.watch.items =
      monitorsOf (loop.watch.items.filter fun entry => !loop.loses deed entry) ++ monitorsOf deed.entered := by
  rw [turns.items_eq distinct, monitorsOf_append, monitorsOf_map_marks]

theorem Turns.monitors_sublist (turns : Turns loop deed next) (distinct : loop.Distinct later)
    (enters : deed.entered = []) : (monitorsOf next.watch.items).Sublist (monitorsOf loop.watch.items) := by
  rw [turns.monitors_eq distinct, enters]
  simpa [monitorsOf] using List.filter_sublist.filterMap _

end EventLoop

end NodeBus
