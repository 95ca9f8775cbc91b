import Mathlib
import NodeBus.EventLoop.Clients
import NodeBus.Proofs.QueueGrowth
import NodeBus.Proofs.WatchSets

/-!
# Turns of the event loop

`Turns` lists everything one turn can do, with the loop afterwards; what turns preserve is read off that list.
The bus stays the first of the watched connections (`Turns.busFirst`), so whenever the loop is idle and
something from the bus has arrived, the next turn services the bus (`turn_of_busReady`).

A run is a list of happenings: turns of the loop, and what clients, time and the bus do in between.
-/
namespace NodeBus

namespace EventLoop

/-- Why there is nothing more to hear from the monitor at an index. -/
inductive Over (loop : EventLoop) (index stream : Nat) : Prop
  /-- The client has finished, and all it sent was read. -/
  | closed (finished : (loop.streams stream).finished = true) (read : (loop.streams stream).incoming = [])
  /-- Reading fails. -/
  | failed (reset : (loop.streams stream).reset = true)
  /-- The loop has waited for a line, and nothing came in time. -/
  | timedOut (deadline : Nat) (reading : loop.activity = .readingLine index deadline)
      (passed : deadline ≤ loop.now) (nothing : (loop.streams stream).incoming = [])

/-- A line of the monitor at an index is to be answered: it is whole, or no more of it will come in time. -/
structure LineDue (loop : EventLoop) (index stream : Nat) (bytes rest : List UInt8) : Prop where
  cut : cutLine maxLine (loop.streams stream).incoming = (bytes, rest)
  something : bytes ≠ []
  due : ∃ deadline, loop.activity = .readingLine index deadline ∧
    (isWholeLine bytes = true ∨ (loop.streams stream).finished = true ∨ deadline ≤ loop.now)

/-- The ways a turn can go. The two indices are what it did and the loop afterwards. -/
inductive Turns (loop : EventLoop) : Deed → EventLoop → Prop
  | ended (exit : Control) (idle : loop.activity = .idle) :
      Turns loop (.ended exit) { loop with pending := none, activity := .ended exit }
  | requested (control : Control) (requests : List Control) (idle : loop.activity = .idle) :
      Turns loop (.requested control)
        { loop with requests, pending := some (.beats loop.pending control) }
  | busFailed (idle : loop.activity = .idle) :
      Turns loop .busFailed { loop with busFails := false, pending := some (.beats loop.pending .reload) }
  | burst (idle : loop.activity = .idle) : Turns loop (.burst loop.serviceBus.1) loop.serviceBus.2
  | commandAccepted (listener stream : Nat) (idle : loop.activity = .idle)
      (next : (loop.waiting listener).head? = some stream) :
      Turns loop (.commandAccepted stream)
        { loop.accept listener with activity := .receiving stream (loop.now + commandTimeout) }
  | monitorConnects (listener stream : Nat) (idle : loop.activity = .idle)
      (next : (loop.waiting listener).head? = some stream) :
      Turns loop ((loop.accept listener).addMonitor stream).1 ((loop.accept listener).addMonitor stream).2
  | lineBegun (index stream : Nat) (kind : Kind) (report : Bool) (idle : loop.activity = .idle)
      (watched : loop.watch.items[index]? = some ⟨kind, .monitor stream, report⟩)
      (something : (loop.streams stream).incoming ≠ []) :
      Turns loop (.lineBegun stream) { loop with activity := .readingLine index (loop.now + lineTimeout) }
  | monitorDropped (index stream : Nat) (kind : Kind) (report : Bool)
      (watched : loop.watch.items[index]? = some ⟨kind, .monitor stream, report⟩) (gone : loop.Over index stream) :
      Turns loop (.monitorDropped stream) ({ loop with activity := .idle }.dropMonitor index)
  | line (index stream : Nat) (kind : Kind) (report : Bool) (bytes rest : List UInt8)
      (watched : loop.watch.items[index]? = some ⟨kind, .monitor stream, report⟩)
      (due : loop.LineDue index stream bytes rest) :
      Turns loop (.line stream bytes) ({ loop with activity := .idle }.answerLine index stream bytes rest)
  | commandServed (stream deadline : Nat) (receives : loop.activity = .receiving stream deadline) :
      Turns loop (.commandServed stream (loop.streams stream).incoming)
        ({ loop with activity := .idle }.serveCommand stream)
  | abandoned : Turns loop .abandoned { loop with activity := .idle }

theorem incoming_eq_nil_of_cutLine {bytes rest : List UInt8} (cut : cutLine maxLine bytes = ([], rest)) :
    bytes = [] := by
  cases bytes with
  | nil => rfl
  | cons byte others =>
    unfold maxLine cutLine at cut
    split at cut <;> simp at cut

theorem turns_readLine {loop : EventLoop} {index deadline : Nat} {deed : Deed} {next : EventLoop}
    (reading : loop.activity = .readingLine index deadline)
    (read : loop.readLine index deadline = some (deed, next)) : Turns loop deed next := by
  unfold readLine at read
  split at read
  · rename_i kind stream report watched
    rcases cut : cutLine maxLine (loop.streams stream).incoming with ⟨bytes, rest⟩
    simp only [cut] at read
    split at read
    · rename_i due
      obtain ⟨rfl, rfl⟩ := Prod.mk.inj (Option.some.inj read)
      have something : bytes ≠ [] := by
        rintro rfl
        simp [isWholeLine, maxLine] at due
      refine .line index stream kind report _ _ watched ⟨cut, something, deadline, reading, ?_⟩
      simp only [Bool.or_eq_true, Bool.and_eq_true, decide_eq_true_eq] at due
      exact due.imp_right fun ends => ends.1.1
    · rename_i notDue
      split at read
      · rename_i ends
        obtain ⟨rfl, rfl⟩ := Prod.mk.inj (Option.some.inj read)
        refine .monitorDropped index stream kind report watched ?_
        by_cases reset : (loop.streams stream).reset = true
        · exact .failed reset
        · have ends : (loop.streams stream).finished = true ∨ deadline ≤ loop.now := by
            simpa [reset] using ends
          -- what ends the line is not enough, so there is none
          obtain rfl : bytes = [] := by
            by_contra something
            simp [ends, reset, something] at notDue
          have nothing := incoming_eq_nil_of_cutLine cut
          exact ends.elim (.closed · nothing) (.timedOut deadline reading · nothing)
      · cases read
  · obtain ⟨rfl, rfl⟩ := Prod.mk.inj (Option.some.inj read)
    exact .abandoned

theorem turns_receive {loop : EventLoop} {stream deadline : Nat} {deed : Deed} {next : EventLoop}
    (receives : loop.activity = .receiving stream deadline)
    (received : loop.receive stream deadline = some (deed, next)) : Turns loop deed next := by
  unfold receive at received
  dsimp only at received
  split at received
  · obtain ⟨rfl, rfl⟩ := Prod.mk.inj (Option.some.inj received)
    exact .commandServed stream deadline receives
  · cases received

theorem turns_takeUp (loop : EventLoop) (idle : loop.activity = .idle) (index : Nat)
    (entry : WatchEntry Endpoint) (watched : loop.watch.items[index]? = some entry)
    (ready : loop.isReady entry.connection = true) :
    Turns loop (loop.takeUp index entry.connection).1 (loop.takeUp index entry.connection).2 := by
  have resting : loop = { loop with activity := .idle } := by rw [← idle]
  have abandons : Turns loop .abandoned loop := by
    have listed : Turns loop .abandoned { loop with activity := .idle } := .abandoned
    rwa [← resting] at listed
  obtain ⟨kind, connection, report⟩ := entry
  cases connection with
  | bus =>
    simp only [takeUp]
    split
    · exact .busFailed idle
    · exact .burst idle
  | commandListener listener =>
    simp only [takeUp]
    split
    · exact abandons
    · rename_i stream next
      exact .commandAccepted listener stream idle next
  | monitorListener listener =>
    simp only [takeUp]
    split
    · exact abandons
    · rename_i stream next
      exact .monitorConnects listener stream idle next
  | monitor stream =>
    simp only [takeUp]
    split
    · rename_i empty
      have nothing : (loop.streams stream).incoming = [] := by simpa using empty
      have gone : loop.Over index stream := by
        have ends : (loop.streams stream).finished = true ∨ (loop.streams stream).reset = true := by
          simpa [isReady, Stream.isReady, nothing] using ready
        exact ends.elim (.closed · nothing) .failed
      have dropped := Turns.monitorDropped index stream kind report watched gone
      rwa [← resting] at dropped
    · rename_i something
      exact .lineBegun index stream kind report idle watched (by simpa using something)

/-- A turn goes one of the ways listed. -/
theorem turns_of_turn {loop next : EventLoop} {deed : Deed} (turned : loop.turn = some (deed, next)) :
    Turns loop deed next := by
  unfold turn at turned
  split at turned
  case h_1 => cases turned
  case h_2 reading => exact turns_readLine reading turned
  case h_3 receives => exact turns_receive receives turned
  case h_4 idle =>
    split at turned
    · obtain ⟨rfl, rfl⟩ := Prod.mk.inj (Option.some.inj turned)
      exact .ended _ idle
    · split at turned
      · obtain ⟨rfl, rfl⟩ := Prod.mk.inj (Option.some.inj turned)
        exact .requested _ _ idle
      · split at turned
        · cases turned
        · rename_i index found
          obtain ⟨entry, watched, taken⟩ := Option.map_eq_some_iff.mp turned
          obtain ⟨inside, ready, -⟩ := List.findIdx?_eq_some_iff_getElem.mp found
          obtain rfl : loop.watch.items[index] = entry := by simpa [inside] using watched
          have listed := loop.turns_takeUp idle _ _ watched ready
          rwa [taken] at listed

end EventLoop

/-! ### What turns preserve -/

theorem WatchSet.head?_remove? {α : Type} {set rest : WatchSet α} {index : Nat} {entry : WatchEntry α}
    (removed : WatchSet.remove? set index = some (entry, rest)) (notFirst : index ≠ 0) :
    rest.items.head? = set.items.head? := by
  obtain ⟨before, rfl⟩ := Nat.exists_eq_succ_of_ne_zero notFirst
  rw [(WatchSet.remove?_eq_some_iff.mp removed).2]
  cases set.items <;> simp

theorem WatchSet.head?_add? {α : Type} {set longer : WatchSet α} {kind : Kind} {connection : α}
    (added : WatchSet.add? set kind connection = some longer) {first : WatchEntry α}
    (head : set.items.head? = some first) : longer.items.head? = some first := by
  rw [Bounded.items_of_push? added, List.head?_append, head]
  rfl

/-- The first of the watched connections is the bus. -/
def WatchSet.BusFirst (set : WatchSet Endpoint) : Prop :=
  ∃ entry, set.items.head? = some entry ∧ entry.connection = .bus

theorem WatchSet.BusFirst.of_head?_eq {set other : WatchSet Endpoint} (first : set.BusFirst)
    (same : other.items.head? = set.items.head?) : other.BusFirst := by
  obtain ⟨entry, head, bus⟩ := first
  exact ⟨entry, same.trans head, bus⟩

theorem WatchSet.BusFirst.add? {set longer : WatchSet Endpoint} {kind : Kind} {connection : Endpoint}
    (first : set.BusFirst) (added : WatchSet.add? set kind connection = some longer) : longer.BusFirst := by
  obtain ⟨entry, head, bus⟩ := first
  exact ⟨entry, WatchSet.head?_add? added head, bus⟩

theorem WatchSet.BusFirst.ne_zero {set : WatchSet Endpoint} (first : set.BusFirst) {index stream : Nat}
    {kind : Kind} {report : Bool} (watched : set.items[index]? = some ⟨kind, .monitor stream, report⟩) :
    index ≠ 0 := by
  obtain ⟨entry, head, bus⟩ := first
  rintro rfl
  rw [List.head?_eq_getElem?, watched] at head
  obtain rfl := Option.some.inj head
  cases bus

namespace EventLoop

/-- Dropping a monitor changes the watch set and closes connections, and nothing else. -/
theorem dropMonitor_frame (loop : EventLoop) (index : Nat) :
    ∃ watch streams, loop.dropMonitor index = { loop with watch, streams } ∧
      (∀ stream, (streams stream).outgoing = (loop.streams stream).outgoing) ∧
      (index ≠ 0 → watch.items.head? = loop.watch.items.head?) := by
  unfold dropMonitor
  split
  · rename_i kind stream report watch removed
    refine ⟨watch, _, rfl, fun other => ?_, WatchSet.head?_remove? removed⟩
    dsimp only
    split
    · rename_i same
      rw [same]
      rfl
    · rfl
  · rename_i watch notMonitor removed
    exact ⟨watch, loop.streams, rfl, fun _ => rfl, WatchSet.head?_remove? removed⟩
  · exact ⟨loop.watch, loop.streams, rfl, fun _ => rfl, fun _ => rfl⟩

theorem dropMonitors_frame (loop : EventLoop) (indices : List Nat) :
    ∃ watch streams, indices.foldl dropMonitor loop = { loop with watch, streams } ∧
      (∀ stream, (streams stream).outgoing = (loop.streams stream).outgoing) ∧
      ((∀ index ∈ indices, index ≠ 0) → watch.items.head? = loop.watch.items.head?) := by
  induction indices generalizing loop with
  | nil => exact ⟨loop.watch, loop.streams, rfl, fun _ => rfl, fun _ => rfl⟩
  | cons index rest ih =>
    obtain ⟨watch, streams, dropped, outgoing, head⟩ := loop.dropMonitor_frame index
    obtain ⟨watch', streams', all, outgoing', head'⟩ := ih (loop.dropMonitor index)
    rw [dropped] at all outgoing' head'
    refine ⟨watch', streams', by rw [List.foldl_cons, dropped, all], ?_, ?_⟩
    · exact fun stream => (outgoing' stream).trans (outgoing stream)
    · intro notFirst
      obtain ⟨first, others⟩ := List.forall_mem_cons.mp notFirst
      exact (head' others).trans (head first)

end EventLoop

/-- All that was sent to a connection, once a notice was announced to it a number of times. Nothing gets
through to a connection that was reset or at which nobody listens. -/
def Stream.told (connection : Stream) (notice : List UInt8) (times : Nat) : List UInt8 :=
  if connection.reset || connection.deaf then connection.outgoing
  else connection.outgoing ++ (List.replicate times notice).flatten

@[simp] theorem Stream.told_zero (connection : Stream) (notice : List UInt8) :
    connection.told notice 0 = connection.outgoing := by
  simp [told]

theorem Stream.told_of_written {connection written : Stream} {notice : List UInt8}
    (wrote : connection.write? notice = some written) (times : Nat) :
    written.told notice times = connection.told notice (times + 1) := by
  unfold write? at wrote
  split at wrote
  · cases wrote
  · rename_i connected
    split at wrote
    · rename_i deaf
      obtain rfl := Option.some.inj wrote
      simp [told, deaf]
    · rename_i listening
      obtain rfl := Option.some.inj wrote
      simp [told, connected, listening, List.replicate_succ]

theorem Stream.told_of_failed {connection : Stream} {notice : List UInt8}
    (failed : connection.write? notice = none) (times : Nat) :
    connection.told notice times = connection.outgoing := by
  unfold write? at failed
  split at failed
  · rename_i reset
    simp [told, reset]
  · split at failed <;> cases failed

namespace EventLoop

/-- How many of some entries are subscriptions of a connection. -/
def subscriptions (stream : Nat) (entries : List (WatchEntry Endpoint)) : Nat :=
  entries.countP fun entry => entry.report && entry.connection = .monitor stream

theorem subscriptions_cons (stream : Nat) (entry : WatchEntry Endpoint)
    (rest : List (WatchEntry Endpoint)) :
    subscriptions stream (entry :: rest) = subscriptions stream rest +
      if entry.report && entry.connection = .monitor stream then 1 else 0 :=
  List.countP_cons

/-- Announcing a notice changes connections only: each is told once for each of its subscriptions. -/
theorem announce_frame (notice : List UInt8) (loop : EventLoop) (index : Nat)
    (entries : List (WatchEntry Endpoint)) :
    ∃ streams, (announce notice loop index entries).2 = { loop with streams } ∧
      (∀ dead ∈ (announce notice loop index entries).1, index ≤ dead) ∧
      ∀ stream, (streams stream).outgoing =
        (loop.streams stream).told notice (subscriptions stream entries) := by
  induction entries generalizing loop index with
  | nil => exact ⟨loop.streams, rfl, by simp [announce], by simp [subscriptions]⟩
  | cons entry rest ih =>
    have skipped (skips : announce notice loop index (entry :: rest) = announce notice loop (index + 1) rest)
        (unsubscribed : ∀ stream, subscriptions stream (entry :: rest) = subscriptions stream rest) :
        ∃ streams, (announce notice loop index (entry :: rest)).2 = { loop with streams } ∧
          (∀ dead ∈ (announce notice loop index (entry :: rest)).1, index ≤ dead) ∧
          ∀ stream, (streams stream).outgoing =
            (loop.streams stream).told notice (subscriptions stream (entry :: rest)) := by
      obtain ⟨streams, later, behind, outgoing⟩ := ih loop (index + 1)
      simp only [skips, unsubscribed]
      exact ⟨streams, later, fun dead member => Nat.le_of_succ_le (behind dead member), outgoing⟩
    obtain ⟨kind, connection, report⟩ := entry
    cases report with
    | false => exact skipped (by cases connection <;> rfl) fun stream => by simp [subscriptions_cons]
    | true =>
      cases connection with
      | bus | commandListener | monitorListener =>
        exact skipped rfl fun stream => by simp [subscriptions_cons]
      | monitor target =>
        simp only [announce, subscriptions_cons, Bool.true_and, decide_eq_true_eq, Endpoint.monitor.injEq]
        cases wrote : (loop.streams target).write? notice with
        | some written =>
          obtain ⟨streams, later, behind, outgoing⟩ := ih (loop.setStream target written) (index + 1)
          refine ⟨streams, later, fun dead member => Nat.le_of_succ_le (behind dead member), fun stream => ?_⟩
          rw [outgoing]
          by_cases same : target = stream
          · subst same
            simpa [setStream] using Stream.told_of_written wrote (subscriptions target rest)
          · simp [setStream, same, Ne.symm same]
        | none =>
          obtain ⟨streams, later, behind, outgoing⟩ := ih loop (index + 1)
          refine ⟨streams, later, ?_, fun stream => ?_⟩
          · refine List.forall_mem_cons.mpr ⟨Nat.le_refl _, ?_⟩
            exact fun dead member => Nat.le_of_succ_le (behind dead member)
          · rw [outgoing]
            by_cases same : target = stream
            · subst same
              rw [Stream.told_of_failed wrote, Stream.told_of_failed wrote]
            · simp [same]

/-- Servicing the bus changes the controller and connections, and announces what was raised. -/
theorem serviceBus_frame (loop : EventLoop) :
    loop.serviceBus.1 = loop.controller.serviceInterrupt.1 ∧
    ∃ watch streams, loop.serviceBus.2 =
        { loop with controller := loop.controller.serviceInterrupt.2, watch, streams } ∧
      (loop.watch.BusFirst → watch.BusFirst) ∧
      ∀ interrupt, loop.serviceBus.1 = some interrupt → ∀ stream,
        (streams stream).outgoing = (loop.streams stream).told (replyBytes (Monitor.notice interrupt))
          (subscriptions stream loop.watch.items) := by
  unfold serviceBus
  rcases loop.controller.serviceInterrupt with ⟨_ | interrupt, controller⟩
  · refine ⟨rfl, loop.watch, loop.streams, rfl, id, fun interrupt raised => ?_⟩
    cases raised
  · obtain ⟨streams, announced, -, outgoing⟩ := announce_frame (replyBytes (Monitor.notice interrupt))
      { loop with controller } 0 loop.watch.items
    obtain ⟨watch, streams', dropped, kept, head⟩ := dropMonitors_frame { loop with controller, streams }
      (announce (replyBytes (Monitor.notice interrupt)) { loop with controller } 0 loop.watch.items).1.reverse
    refine ⟨rfl, watch, streams', ?_, ?_, ?_⟩
    · dsimp only
      rw [announced, dropped]
    · intro first
      refine first.of_head?_eq (head fun index dead => ?_)
      -- the bus itself is never among those that could not be written to
      obtain ⟨⟨kind, connection, report⟩, front, bus⟩ := first
      obtain ⟨rest, items⟩ := List.head?_eq_some_iff.mp front
      obtain rfl : connection = .bus := bus
      have skipped : announce (replyBytes (Monitor.notice interrupt)) { loop with controller } 0
          loop.watch.items = announce (replyBytes (Monitor.notice interrupt)) { loop with controller } 1 rest := by
        rw [items]
        rfl
      rw [skipped, List.mem_reverse] at dead
      obtain ⟨-, -, behind, -⟩ := announce_frame (replyBytes (Monitor.notice interrupt))
        { loop with controller } 1 rest
      exact Nat.ne_of_gt (behind index dead)
    · intro other raised stream
      obtain rfl := Option.some.inj raised
      exact (kept stream).trans (outgoing stream)

theorem answerLine_frame (loop : EventLoop) (index stream : Nat) (line rest : List UInt8)
    (entry : WatchEntry Endpoint) (watched : loop.watch.items[index]? = some entry) :
    ∃ watch streams, loop.answerLine index stream line rest =
        { loop with
          controller :=
            (Service.answerLine loop.controller entry.report (Text.decodeLossy line)).controller
          watch, streams } ∧
      (index ≠ 0 → watch.items.head? = loop.watch.items.head?) := by
  have modified (change : WatchEntry Endpoint → WatchEntry Endpoint) (notFirst : index ≠ 0) :
      (loop.watch.modify index change).items.head? = loop.watch.items.head? := by
    obtain ⟨before, rfl⟩ := Nat.exists_eq_succ_of_ne_zero notFirst
    change (loop.watch.items.modify (before + 1) change).head? = _
    cases loop.watch.items <;> rfl
  unfold answerLine
  rw [watched]
  dsimp only
  split
  · exact ⟨_, _, rfl, modified _⟩
  · obtain ⟨watch, streams, dropped, -, head⟩ := dropMonitor_frame _ index
    rw [dropped]
    exact ⟨watch, streams, rfl, fun notFirst => (head notFirst).trans (modified _ notFirst)⟩

theorem serveCommand_frame (loop : EventLoop) (stream : Nat) :
    ∃ streams, loop.serveCommand stream =
      { loop with
        controller := (Service.serve loop.helper loop.controller (loop.streams stream).incoming).2
        streams } := by
  unfold serveCommand
  dsimp only
  rcases Service.serve loop.helper loop.controller (loop.streams stream).incoming with ⟨_ | response, controller⟩
  · exact ⟨_, rfl⟩
  · exact ⟨_, rfl⟩

theorem addMonitor_frame (loop : EventLoop) (stream : Nat) :
    ∃ watch streams, (loop.addMonitor stream).2 = { loop with watch, streams } ∧
      (loop.watch.BusFirst → watch.BusFirst) := by
  unfold addMonitor
  cases added : WatchSet.add? loop.watch .connectedText (.monitor stream) with
  | none => exact ⟨loop.watch, _, rfl, id⟩
  | some watch => exact ⟨watch, loop.streams, rfl, fun first => first.add? added⟩

/-- The bus stays the first of the watched connections. -/
theorem Turns.busFirst {loop next : EventLoop} {deed : Deed} (turns : Turns loop deed next)
    (first : loop.watch.BusFirst) : next.watch.BusFirst := by
  cases turns with
  | ended | requested | busFailed | commandAccepted | lineBegun | abandoned => exact first
  | burst =>
    obtain ⟨-, watch, streams, serviced, kept, -⟩ := loop.serviceBus_frame
    rw [serviced]
    exact kept first
  | monitorConnects listener stream =>
    obtain ⟨watch, streams, added, kept⟩ := (loop.accept listener).addMonitor_frame stream
    rw [added]
    exact kept first
  | monitorDropped index stream kind report watched =>
    obtain ⟨watch, streams, dropped, -, head⟩ := dropMonitor_frame { loop with activity := .idle } index
    rw [dropped]
    exact first.of_head?_eq (head (first.ne_zero watched))
  | line index stream kind report bytes rest watched =>
    obtain ⟨watch, streams, answered, head⟩ :=
      answerLine_frame { loop with activity := .idle } index stream bytes rest _ watched
    rw [answered]
    exact first.of_head?_eq (head (first.ne_zero watched))
  | commandServed stream =>
    obtain ⟨streams, served⟩ := serveCommand_frame { loop with activity := .idle } stream
    rw [served]
    exact first

end EventLoop

/-- The deed takes nothing from the bus: it does not service it, and if it serves a client, no answer is
awaited. -/
def Deed.leavesBus : Deed → Bool
  | .burst _ => false
  | .line _ bytes => !Monitor.awaits (Text.decodeLossy bytes)
  | .commandServed _ received => !Service.awaits received
  | _ => true

namespace EventLoop

theorem Turns.undisturbed {loop next : EventLoop} {deed : Deed} (turns : Turns loop deed next)
    (leaves : deed.leavesBus = true) : loop.controller.Undisturbed next.controller := by
  cases turns with
  | ended | requested | busFailed | commandAccepted | lineBegun | abandoned => exact .refl _
  | burst => cases leaves
  | monitorConnects listener stream =>
    obtain ⟨watch, streams, added, -⟩ := (loop.accept listener).addMonitor_frame stream
    rw [added]
    exact .refl _
  | monitorDropped index stream kind report watched =>
    obtain ⟨watch, streams, dropped, -⟩ := dropMonitor_frame { loop with activity := .idle } index
    rw [dropped]
    exact .refl _
  | line index stream kind report bytes rest watched =>
    obtain ⟨watch, streams, answered, -⟩ :=
      answerLine_frame { loop with activity := .idle } index stream bytes rest _ watched
    rw [answered]
    exact Service.answerLine_undisturbed _ _ _ (by simpa [Deed.leavesBus] using leaves)
  | commandServed stream =>
    obtain ⟨streams, served⟩ := serveCommand_frame { loop with activity := .idle } stream
    rw [served]
    exact Service.serve_undisturbed _ _ _ (by simpa [Deed.leavesBus] using leaves)

/-- Nothing keeps the loop from taking up what is ready. -/
structure Free (loop : EventLoop) : Prop where
  idle : loop.activity = .idle
  noRequest : loop.requests = [] ∧ loop.pending = none
  portWorks : loop.busFails = false

/-- The bus comes before everything else that is ready. -/
theorem turn_of_busReady {loop : EventLoop} (first : loop.watch.BusFirst) (free : loop.Free)
    (ready : busReady loop.controller.bus = true) :
    loop.turn = some (.burst loop.serviceBus.1, loop.serviceBus.2) := by
  obtain ⟨idle, ⟨noRequest, noPending⟩, portWorks⟩ := free
  obtain ⟨entry, front, bus⟩ := first
  obtain ⟨rest, items⟩ := List.head?_eq_some_iff.mp front
  have found : loop.firstReady = some 0 := by
    rw [firstReady, items, List.findIdx?_cons, bus]
    simp [isReady, ready]
  simp [turn, idle, noPending, noRequest, found, items, bus, takeUp, portWorks]

theorem readLine_of_deadline (loop : EventLoop) (index deadline : Nat) (passed : deadline ≤ loop.now) :
    ∃ deed next, loop.readLine index deadline = some (deed, next) ∧ next.activity = .idle := by
  unfold readLine
  split
  · rename_i kind stream report watched
    simp only [passed, decide_true, Bool.or_true, Bool.true_or, if_true]
    split
    · obtain ⟨watch, streams, answered, -⟩ :=
        answerLine_frame { loop with activity := .idle } index stream _ _ _ watched
      exact ⟨_, _, rfl, by rw [answered]⟩
    · obtain ⟨watch, streams, dropped, -⟩ := dropMonitor_frame { loop with activity := .idle } index
      exact ⟨_, _, rfl, by rw [dropped]⟩
  · exact ⟨_, _, rfl, rfl⟩

/-- A loop that waits for a client goes on when its deadline has passed. -/
theorem turn_of_deadline {loop : EventLoop} {deadline : Nat} (waits : loop.deadline? = some deadline)
    (passed : deadline ≤ loop.now) : ∃ deed next, loop.turn = some (deed, next) ∧ next.activity = .idle := by
  unfold turn
  unfold deadline? at waits
  split at waits
  case h_1 index other activity =>
    obtain rfl := Option.some.inj waits
    rw [activity]
    exact loop.readLine_of_deadline index other passed
  case h_2 stream other activity =>
    obtain rfl := Option.some.inj waits
    obtain ⟨streams, served⟩ := serveCommand_frame { loop with activity := .idle } stream
    rw [activity]
    simp only [receive, passed, decide_true, Bool.or_true, if_true]
    exact ⟨_, _, rfl, by rw [served]⟩
  case h_3 => cases waits
  case h_4 => cases waits

/-! ### Runs -/

/-- What can happen while the loop runs: a turn, or something from outside. A client that makes no room for what is
written to it changes its connection to one that was reset. -/
inductive Happening where
  | turn
  | connects (listener stream : Nat)
  | client (stream : Nat) (change : Stream → Stream)
  | request (control : Control)
  | portFails
  | passes (milliseconds : Nat)
  | busWaits (milliseconds : Nat)
  | busExpects (replies : List Reply)
  | busDelivers (reply : Reply)

/-- The loop afterwards. A turn that the loop can not take changes nothing. -/
def happens (loop : EventLoop) : Happening → EventLoop
  | .turn => (loop.turn.map Prod.snd).getD loop
  | .connects listener stream => loop.connect listener stream
  | .client stream change => loop.clientDoes stream change
  | .request control => loop.request control
  | .portFails => { loop with busFails := true }
  | .passes milliseconds => { loop with now := loop.now + milliseconds }
  | .busWaits milliseconds => loop.onBus (·.pause milliseconds)
  | .busExpects replies => loop.onBus (·.expect replies)
  | .busDelivers reply => loop.onBus (·.deliver reply)

/-- What the loop did in it. -/
def deed? (loop : EventLoop) : Happening → Option Deed
  | .turn => loop.turn.map Prod.fst
  | _ => none

/-- The loop after a run. -/
def after (loop : EventLoop) (happenings : List Happening) : EventLoop := happenings.foldl happens loop

/-- What the loop did in a run, in order. -/
def deeds : EventLoop → List Happening → List Deed
  | _, [] => []
  | loop, happening :: rest => (loop.deed? happening).toList ++ deeds (loop.happens happening) rest

theorem after_append (loop : EventLoop) (first second : List Happening) :
    loop.after (first ++ second) = (loop.after first).after second :=
  List.foldl_append

theorem deeds_append (loop : EventLoop) (first second : List Happening) :
    loop.deeds (first ++ second) = loop.deeds first ++ (loop.after first).deeds second := by
  induction first generalizing loop with
  | nil => rfl
  | cons happening rest ih =>
    rw [List.cons_append, deeds, deeds, ih, List.append_assoc]
    rfl

theorem busFirst_happens (loop : EventLoop) (happening : Happening) (first : loop.watch.BusFirst) :
    (loop.happens happening).watch.BusFirst := by
  cases happening with
  | turn =>
    rw [happens]
    cases turned : loop.turn with
    | none => exact first
    | some pair => exact (turns_of_turn turned).busFirst first
  | _ => exact first

theorem busFirst_after (loop : EventLoop) (happenings : List Happening) (first : loop.watch.BusFirst) :
    (loop.after happenings).watch.BusFirst := by
  induction happenings generalizing loop with
  | nil => exact first
  | cons happening rest ih => exact ih _ (loop.busFirst_happens happening first)

/-- The bus is watched first, whatever listeners there are. -/
theorem busFirst_start (controller : Controller) (helper : Helper) (listeners : List (Kind × Endpoint)) :
    (start controller helper listeners).watch.BusFirst := by
  have kept (watch : WatchSet Endpoint) (first : watch.BusFirst) (others : List (Kind × Endpoint)) :
      (others.foldl (fun watch listener => (WatchSet.add? watch listener.1 listener.2).getD watch)
        watch).BusFirst := by
    induction others generalizing watch with
    | nil => exact first
    | cons listener rest ih =>
      refine ih _ ?_
      dsimp only
      cases added : WatchSet.add? watch listener.1 listener.2 with
      | none => exact first
      | some longer => exact first.add? added
  exact kept _ ⟨_, rfl, rfl⟩ listeners

/-- Without a deed that takes from the bus, the queue at most grows. -/
theorem undisturbed_happens (loop : EventLoop) (happening : Happening)
    (leaves : ∀ deed ∈ loop.deed? happening, deed.leavesBus = true) :
    loop.controller.Undisturbed (loop.happens happening).controller := by
  cases happening with
  | turn =>
    rw [happens]
    cases turned : loop.turn with
    | none => exact .refl _
    | some pair => exact (turns_of_turn turned).undisturbed (leaves pair.1 (by simp [deed?, turned]))
  | busWaits milliseconds => exact ⟨Bus.grows_pause _ _, rfl⟩
  | busExpects replies => exact ⟨.refl _, rfl⟩
  | busDelivers reply => exact ⟨Bus.grows_deliver _ _, rfl⟩
  | connects | client | request | portFails | passes => exact .refl _

theorem undisturbed_after (loop : EventLoop) (happenings : List Happening)
    (leaves : ∀ deed ∈ loop.deeds happenings, deed.leavesBus = true) :
    loop.controller.Undisturbed (loop.after happenings).controller := by
  induction happenings generalizing loop with
  | nil => exact .refl _
  | cons happening rest ih =>
    have first := loop.undisturbed_happens happening fun deed member =>
      leaves deed (List.mem_append_left _ (by simpa using member))
    have later := ih (loop.happens happening) fun deed member =>
      leaves deed (List.mem_append_right _ member)
    exact ⟨first.1.trans later.1, later.2.trans first.2⟩

end EventLoop

end NodeBus
