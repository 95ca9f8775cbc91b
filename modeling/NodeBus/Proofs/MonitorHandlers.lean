import NodeBus.Proofs.LoopTurns

/-!
# What the handlers do to monitors

The effect of each handler on the watch set and on the connections, in full: dropping a monitor erases its entry and
closes its connection (`dropMonitor_eq`), an interrupt is written once to each subscriber and erases the entries of
those it could not be written to (`serviceBus_some`), and the answer to a line is written once, after the entry of
its monitor was marked (`answerLine_eq`).

No two entries may stand for the same monitor (`monitorsOf`): then it does not matter that indices shift.
-/
namespace NodeBus

/-- The number of a monitor. -/
def Endpoint.monitor? : Endpoint → Option Nat
  | .monitor stream => some stream
  | _ => none

theorem Endpoint.monitor?_eq_some_iff {endpoint : Endpoint} {stream : Nat} :
    endpoint.monitor? = some stream ↔ endpoint = .monitor stream := by
  cases endpoint <;> simp [monitor?]

/-- The numbers of the monitors among some entries, in order. -/
def monitorsOf (entries : List (WatchEntry Endpoint)) : List Nat :=
  entries.filterMap fun entry => entry.connection.monitor?

/-- Does the entry stand for the monitor? -/
def WatchEntry.isFor (stream : Nat) (entry : WatchEntry Endpoint) : Bool := entry.connection = .monitor stream

/-- The number of the monitor, if interrupts are announced to it. -/
def WatchEntry.subscriber? (entry : WatchEntry Endpoint) : Option Nat :=
  if entry.report then entry.connection.monitor? else none

/-- The numbers of the monitors that interrupts are announced to. -/
def subscribersOf (entries : List (WatchEntry Endpoint)) : List Nat := entries.filterMap (·.subscriber?)

@[simp] theorem WatchEntry.isFor_iff {stream : Nat} {entry : WatchEntry Endpoint} :
    entry.isFor stream = true ↔ entry.connection = .monitor stream := by
  simp [isFor]

theorem WatchEntry.subscriber?_eq_some_iff {stream : Nat} {entry : WatchEntry Endpoint} :
    entry.subscriber? = some stream ↔ entry.report = true ∧ entry.connection = .monitor stream := by
  simp [subscriber?, Endpoint.monitor?_eq_some_iff]

theorem mem_monitorsOf {stream : Nat} {entries : List (WatchEntry Endpoint)} :
    stream ∈ monitorsOf entries ↔ ∃ entry ∈ entries, entry.connection = .monitor stream := by
  simp [monitorsOf, Endpoint.monitor?_eq_some_iff]

theorem mem_subscribersOf {stream : Nat} {entries : List (WatchEntry Endpoint)} :
    stream ∈ subscribersOf entries ↔
      ∃ entry ∈ entries, entry.report = true ∧ entry.connection = .monitor stream := by
  simp [subscribersOf, WatchEntry.subscriber?_eq_some_iff]

theorem mem_monitorsOf_of_subscribersOf {stream : Nat} {entries : List (WatchEntry Endpoint)}
    (member : stream ∈ subscribersOf entries) : stream ∈ monitorsOf entries := by
  obtain ⟨entry, listed, -, connection⟩ := mem_subscribersOf.mp member
  exact mem_monitorsOf.mpr ⟨entry, listed, connection⟩

/-- A monitor has at most one entry. -/
theorem countP_isFor_le_one {entries : List (WatchEntry Endpoint)} (distinct : (monitorsOf entries).Nodup)
    (stream : Nat) : entries.countP (WatchEntry.isFor stream) ≤ 1 := by
  have once := List.nodup_iff_count_le_one.mp distinct stream
  rw [monitorsOf, List.count_filterMap] at once
  refine le_trans (le_of_eq (List.countP_congr ?_)) once
  intro entry _
  simp [Endpoint.monitor?_eq_some_iff]

namespace Stream

/-- Writing fails exactly when the connection was reset. -/
@[simp] theorem write?_eq_none_iff {connection : Stream} {bytes : List UInt8} :
    connection.write? bytes = none ↔ connection.reset = true := by
  unfold write?
  split
  · simp_all
  · split <;> simp_all

@[simp] theorem isNone_write? (connection : Stream) (bytes : List UInt8) :
    (connection.write? bytes).isNone = connection.reset := by
  rw [Bool.eq_iff_iff, Option.isNone_iff_eq_none, write?_eq_none_iff]

theorem reset_of_write? {connection written : Stream} {bytes : List UInt8}
    (wrote : connection.write? bytes = some written) : connection.reset = false := by
  by_contra reset
  have failed : connection.write? bytes = none := write?_eq_none_iff.mpr (by simpa using reset)
  simp [failed] at wrote

/-- The connection after something was written to it. If that fails, it is closed. -/
def writtenOrClosed (connection : Stream) (bytes : List UInt8) : Stream :=
  (connection.write? bytes).getD connection.close

/-- What writing does to a connection, but for what is sent. -/
theorem writtenOrClosed_keeps (connection : Stream) (bytes : List UInt8) :
    (connection.writtenOrClosed bytes).closed = (connection.closed || connection.reset) ∧
      (connection.writtenOrClosed bytes).finished = connection.finished ∧
      (connection.reset = true → (connection.writtenOrClosed bytes).reset = true) := by
  unfold writtenOrClosed write? close
  split
  · simp_all
  · split <;> simp_all

end Stream

namespace EventLoop

/-- Dropping the monitor at an index erases its entry and closes its connection. -/
theorem dropMonitor_eq (loop : EventLoop) {index stream : Nat} {kind : Kind} {report : Bool}
    (watched : loop.watch.items[index]? = some ⟨kind, .monitor stream, report⟩) :
    ∃ watch, loop.dropMonitor index =
        { loop with watch }.setStream stream (loop.streams stream).close ∧
      watch.items = loop.watch.items.eraseIdx index := by
  obtain ⟨watch, removed, left⟩ := WatchSet.remove?_of_getElem? loop.watch watched
  exact ⟨watch, by simp only [dropMonitor, removed], left⟩

theorem dropMonitor_setStream (loop : EventLoop) (value : Stream) {index stream : Nat} {kind : Kind}
    {report : Bool} (watched : loop.watch.items[index]? = some ⟨kind, .monitor stream, report⟩) :
    ∃ watch, (loop.setStream stream value).dropMonitor index =
        { loop with watch }.setStream stream value.close ∧
      watch.items = loop.watch.items.eraseIdx index := by
  obtain ⟨watch, dropped, left⟩ := dropMonitor_eq (loop.setStream stream value) watched
  refine ⟨watch, ?_, left⟩
  rw [dropped]
  simp only [setStream, EventLoop.mk.injEq, and_true, true_and]
  funext other
  split <;> simp

/-- A new monitor is entered behind the others if there is room, and closed if there is none. -/
theorem addMonitor_eq (loop : EventLoop) (stream : Nat) :
    (∃ watch, loop.addMonitor stream = (.monitorAccepted stream, { loop with watch }) ∧
        watch.items = loop.watch.items ++ [⟨.connectedText, .monitor stream, false⟩] ∧
        loop.watch.items.length < watchCapacity) ∨
      loop.addMonitor stream =
        (.monitorRefused stream, loop.setStream stream (loop.streams stream).close) ∧
        loop.watch.items.length = watchCapacity := by
  unfold addMonitor
  cases added : WatchSet.add? loop.watch .connectedText (.monitor stream) with
  | some watch =>
    have items := Bounded.items_of_push? added
    have fits := watch.fits
    simp only [items, List.length_append, List.length_singleton] at fits
    exact .inl ⟨watch, rfl, items, fits⟩
  | none =>
    have full : ¬ loop.watch.items.length < watchCapacity := by
      intro room
      simp [WatchSet.add?, Bounded.push?, room] at added
    exact .inr ⟨rfl, Nat.le_antisymm loop.watch.fits (Nat.not_lt.mp full)⟩

/-! ### Announcing an interrupt -/

/-- A notice can not be written to the monitor that the entry stands for. -/
def failsToHear (loop : EventLoop) (notice : List UInt8) (entry : WatchEntry Endpoint) : Bool :=
  entry.subscriber?.any fun stream => ((loop.streams stream).write? notice).isNone

/-- The connections after a notice was announced to the subscribers among some entries. -/
def toldStreams (loop : EventLoop) (notice : List UInt8) (entries : List (WatchEntry Endpoint))
    (stream : Nat) : Stream :=
  if stream ∈ subscribersOf entries then (loop.streams stream).writtenOrClosed notice
  else loop.streams stream

/-- The loop after a notice was announced to some entries, of which the first stands at `index`, and the
monitors that could not hear it were dropped. -/
def announced (notice : List UInt8) (loop : EventLoop) (index : Nat)
    (entries : List (WatchEntry Endpoint)) : EventLoop :=
  (announce notice loop index entries).1.reverse.foldl dropMonitor (announce notice loop index entries).2

theorem announced_cons (notice : List UInt8) (loop : EventLoop) (index : Nat) (entry : WatchEntry Endpoint)
    (rest : List (WatchEntry Endpoint)) :
    announced notice loop index (entry :: rest) =
      match entry.subscriber? with
      | none => announced notice loop (index + 1) rest
      | some stream =>
        match (loop.streams stream).write? notice with
        | some written => announced notice (loop.setStream stream written) (index + 1) rest
        | none => (announced notice loop (index + 1) rest).dropMonitor index := by
  obtain ⟨kind, connection, report⟩ := entry
  cases report with
  | false => cases connection <;> rfl
  | true =>
    cases connection with
    | bus | commandListener | monitorListener => rfl
    | monitor stream =>
      cases wrote : (loop.streams stream).write? notice <;>
        simp [announced, announce, WatchEntry.subscriber?, Endpoint.monitor?, wrote]

theorem failsToHear_setStream {loop : EventLoop} {notice : List UInt8} {entry : WatchEntry Endpoint}
    {stream : Nat} {value : Stream} (different : entry.subscriber? ≠ some stream) :
    (loop.setStream stream value).failsToHear notice entry = loop.failsToHear notice entry := by
  cases subscriber : entry.subscriber? with
  | none => simp [failsToHear, subscriber]
  | some other =>
    have different : other ≠ stream := by simpa [subscriber] using different
    simp [failsToHear, subscriber, setStream, different]

theorem toldStreams_cons_none (loop : EventLoop) (notice : List UInt8) {entry : WatchEntry Endpoint}
    {rest : List (WatchEntry Endpoint)} (subscriber : entry.subscriber? = none) :
    loop.toldStreams notice (entry :: rest) = loop.toldStreams notice rest := by
  funext other
  simp [toldStreams, subscribersOf, subscriber]

theorem toldStreams_cons_some (loop : EventLoop) (notice : List UInt8) {entry : WatchEntry Endpoint}
    {rest : List (WatchEntry Endpoint)} {stream : Nat} (subscriber : entry.subscriber? = some stream) :
    loop.toldStreams notice (entry :: rest) = fun other =>
      if other = stream then (loop.streams stream).writtenOrClosed notice
      else loop.toldStreams notice rest other := by
  funext other
  by_cases same : other = stream
  · simp [toldStreams, subscribersOf, subscriber, same]
  · simp [toldStreams, subscribersOf, subscriber, same]

section OneSubscriber

variable {loop : EventLoop} {notice : List UInt8} {stream : Nat} {rest : List (WatchEntry Endpoint)}
  (unlisted : stream ∉ subscribersOf rest)
include unlisted

/-- Those behind a subscriber are told the same, whether it was written to before or is closed afterwards. -/
theorem toldStreams_setStream {written : Stream} (wrote : (loop.streams stream).write? notice = some written) :
    (loop.setStream stream written).toldStreams notice rest = fun other =>
      if other = stream then (loop.streams stream).writtenOrClosed notice
      else loop.toldStreams notice rest other := by
  funext other
  by_cases same : other = stream
  · simp [toldStreams, setStream, same, unlisted, Stream.writtenOrClosed, wrote]
  · simp [toldStreams, setStream, same]

theorem toldStreams_close (failed : (loop.streams stream).write? notice = none) :
    (fun other => if other = stream then (loop.toldStreams notice rest stream).close
      else loop.toldStreams notice rest other) = fun other =>
      if other = stream then (loop.streams stream).writtenOrClosed notice
      else loop.toldStreams notice rest other := by
  funext other
  simp [toldStreams, unlisted, Stream.writtenOrClosed, failed]

theorem filter_failsToHear_setStream (value : Stream) :
    rest.filter (fun entry => !(loop.setStream stream value).failsToHear notice entry) =
      rest.filter fun entry => !loop.failsToHear notice entry := by
  apply List.filter_congr
  intro other member
  have different : other.subscriber? ≠ some stream :=
    fun same => unlisted (List.mem_filterMap.mpr ⟨other, member, same⟩)
  rw [failsToHear_setStream different]

end OneSubscriber

/-- The notice is written once to each subscriber, and exactly the entries that could not hear it are gone. -/
theorem announced_eq (notice : List UInt8) (loop : EventLoop) (before entries : List (WatchEntry Endpoint))
    (items : loop.watch.items = before ++ entries) (distinct : (monitorsOf entries).Nodup) :
    ∃ watch, announced notice loop before.length entries =
        { loop with watch, streams := loop.toldStreams notice entries } ∧
      watch.items = before ++ entries.filter fun entry => !loop.failsToHear notice entry := by
  induction entries generalizing loop before with
  | nil => exact ⟨loop.watch, rfl, items⟩
  | cons entry rest ih =>
    have length : (before ++ [entry]).length = before.length + 1 := by simp
    have fewer : (monitorsOf rest).Nodup :=
      distinct.sublist ((List.sublist_cons_self entry rest).filterMap _)
    have step := announced_cons notice loop before.length entry rest
    cases subscriber : entry.subscriber? with
    | none =>
      have hears : loop.failsToHear notice entry = false := by simp [failsToHear, subscriber]
      obtain ⟨watch, dropped, left⟩ := ih loop (before ++ [entry]) (by simp [items]) fewer
      simp only [subscriber, ← length, dropped] at step
      rw [loop.toldStreams_cons_none notice subscriber]
      exact ⟨watch, step, by simp [left, hears]⟩
    | some stream =>
      obtain ⟨-, connection⟩ := WatchEntry.subscriber?_eq_some_iff.mp subscriber
      -- the other entries stand for other monitors
      have unlisted : stream ∉ subscribersOf rest := by
        simp only [monitorsOf, connection, List.filterMap_cons, Endpoint.monitor?, List.nodup_cons] at distinct
        exact fun listed => distinct.1 (mem_monitorsOf_of_subscribersOf listed)
      rw [loop.toldStreams_cons_some notice subscriber]
      cases wrote : (loop.streams stream).write? notice with
      | some written =>
        have hears : loop.failsToHear notice entry = false := by
          simp [failsToHear, subscriber, Stream.reset_of_write? wrote]
        obtain ⟨watch, dropped, left⟩ :=
          ih (loop.setStream stream written) (before ++ [entry]) (by simp [setStream, items]) fewer
        rw [toldStreams_setStream unlisted wrote] at dropped
        rw [filter_failsToHear_setStream unlisted] at left
        simp only [subscriber, wrote, ← length, dropped] at step
        exact ⟨watch, step, by simp [left, hears]⟩
      | none =>
        have fails : loop.failsToHear notice entry = true := by
          simp [failsToHear, subscriber, Stream.write?_eq_none_iff.mp wrote]
        obtain ⟨watch, dropped, left⟩ := ih loop (before ++ [entry]) (by simp [items]) fewer
        have watched : watch.items[before.length]? = some ⟨entry.kind, .monitor stream, entry.report⟩ := by
          simp [left, ← connection]
        obtain ⟨shorter, gone, erased⟩ :=
          dropMonitor_eq { loop with watch, streams := loop.toldStreams notice rest } watched
        simp only [subscriber, wrote, ← length, dropped] at step
        simp only [gone, setStream, toldStreams_close unlisted wrote] at step
        refine ⟨shorter, step, ?_⟩
        simp [erased, left, fails, List.eraseIdx_append_of_length_le]

/-- An interrupt is announced to the subscribers among all entries. -/
theorem serviceBus_some (loop : EventLoop) {interrupt : Interrupt} {controller : Controller}
    (raised : loop.controller.serviceInterrupt = (some interrupt, controller))
    (distinct : (monitorsOf loop.watch.items).Nodup) :
    ∃ watch, loop.serviceBus = (some interrupt,
        { loop with
          controller, watch
          streams := loop.toldStreams (replyBytes (Monitor.notice interrupt)) loop.watch.items }) ∧
      watch.items = loop.watch.items.filter fun entry =>
        !loop.failsToHear (replyBytes (Monitor.notice interrupt)) entry := by
  obtain ⟨watch, dropped, left⟩ := announced_eq (replyBytes (Monitor.notice interrupt))
    { loop with controller } [] loop.watch.items rfl distinct
  refine ⟨watch, ?_, left⟩
  unfold serviceBus
  rw [raised]
  exact congrArg (some interrupt, ·) dropped

theorem serviceBus_none (loop : EventLoop) {controller : Controller}
    (raised : loop.controller.serviceInterrupt = (none, controller)) :
    loop.serviceBus = (none, { loop with controller }) := by
  simp only [serviceBus, raised]

/-! ### Answering a line -/

/-- The entry of a monitor with its flag set anew. -/
def marked (stream : Nat) (report : Bool) (entry : WatchEntry Endpoint) : WatchEntry Endpoint :=
  if entry.isFor stream then { entry with report } else entry

@[simp] theorem connection_marked (stream : Nat) (report : Bool) (entry : WatchEntry Endpoint) :
    (marked stream report entry).connection = entry.connection := by
  unfold marked
  split <;> rfl

@[simp] theorem isFor_marked (stream other : Nat) (report : Bool) (entry : WatchEntry Endpoint) :
    (marked stream report entry).isFor other = entry.isFor other := by
  simp [WatchEntry.isFor]

/-- The entry of the monitor is marked, and erased if the answer can not be written. -/
theorem answerLine_eq (loop : EventLoop) {index stream : Nat} {kind : Kind} {report : Bool}
    (line rest : List UInt8) (distinct : (monitorsOf loop.watch.items).Nodup)
    (watched : loop.watch.items[index]? = some ⟨kind, .monitor stream, report⟩) :
    let answered := Service.answerLine loop.controller report (Text.decodeLossy line)
    ∃ watch, loop.answerLine index stream line rest =
        { loop with controller := answered.controller, watch }.setStream stream
          ({ loop.streams stream with incoming := rest }.writtenOrClosed (replyBytes answered.reply)) ∧
      watch.items = (loop.watch.items.map (marked stream answered.report)).filter fun entry =>
        !(entry.isFor stream && (loop.streams stream).reset) := by
  intro answered
  have once := countP_isFor_le_one distinct stream
  have modified : (WatchSet.modify loop.watch index fun entry => { entry with report := answered.report }).items =
      loop.watch.items.map (marked stream answered.report) :=
    modify_eq_map once watched (by simp) _
  unfold answerLine
  simp only [watched]
  generalize WatchSet.modify loop.watch index _ = watch at modified
  cases wrote : { loop.streams stream with incoming := rest }.write? (replyBytes answered.reply) with
  | some written =>
    have connected : (loop.streams stream).reset = false := by simpa using Stream.reset_of_write? wrote
    refine ⟨watch, ?_, ?_⟩
    · simp only [Stream.writtenOrClosed, wrote, Option.getD_some]
      rfl
    · simp [modified, connected]
  | none =>
    have reset : (loop.streams stream).reset = true := by simpa using wrote
    have stillWatched : watch.items[index]? = some ⟨kind, .monitor stream, answered.report⟩ := by
      rw [modified, List.getElem?_map, watched]
      simp [marked, WatchEntry.isFor]
    obtain ⟨shorter, dropped, erased⟩ :=
      dropMonitor_setStream { loop with controller := answered.controller, watch }
        { loop.streams stream with incoming := rest } stillWatched
    refine ⟨shorter, ?_, ?_⟩
    · simp only [Stream.writtenOrClosed, wrote, Option.getD_none]
      exact dropped
    · have marks : (loop.watch.items.map (marked stream answered.report)).countP (WatchEntry.isFor stream) ≤ 1 := by
        simp only [List.countP_map, Function.comp_def, isFor_marked, once]
      rw [erased]
      simp only [modified]
      rw [eraseIdx_eq_filter marks (modified ▸ stillWatched) (by simp)]
      simp [reset]

end EventLoop

end NodeBus
