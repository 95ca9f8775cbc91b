import NodeBus.Proofs.ConnectionNumbers

/-!
# Which event comes first

A loop that waits takes up the foremost of what is ready: the oldest control request, then the watched connection at
the lowest index (`Source.place`, `Foremost`). What the turn leaves alone is told by what it took up: no other request
is received, no other connection accepted, and from no other connection anything read (`Selected`). What a turn begins
is finished with before anything else is taken up (`Turns.goesOn`).
-/
namespace NodeBus

/-- Nothing was read from the connection. It may have been closed, if nothing could be written to it any more. -/
def Stream.Unread (before after : Stream) : Prop :=
  after.incoming = before.incoming ∨ after.closed = true ∧ (before.reset = true ∨ before.deaf = true)

theorem Stream.Unread.refl (connection : Stream) : connection.Unread connection := .inl rfl

/-- Writing reads nothing. -/
theorem Stream.unread_of_written {connection written after : Stream} {bytes : List UInt8}
    (wrote : connection.write? bytes = some written) (unread : written.Unread after) : connection.Unread after := by
  unfold write? at wrote
  split at wrote
  · cases wrote
  · split at wrote
    · rename_i deaf
      obtain rfl := Option.some.inj wrote
      exact unread.imp_right fun closed => ⟨closed.1, .inr deaf⟩
    · obtain rfl := Option.some.inj wrote
      exact unread

/-- The connection that a deed deals with. -/
def Deed.client? : Deed → Option Nat
  | .commandAccepted stream | .commandServed stream _ | .monitorAccepted stream | .monitorRefused stream
  | .lineBegun stream | .line stream _ | .monitorDropped stream => some stream
  | _ => none

/-- Why the loop is to end after this deed. -/
def Deed.stops? : Deed → Option Control
  | .requested control => some control
  | .busFailed => some .reload
  | _ => none

/-- The deed is over in one turn, and the loop goes on after it. -/
def Deed.isWhole : Deed → Bool
  | .burst _ | .monitorAccepted _ | .monitorRefused _ | .monitorDropped _ => true
  | _ => false

/-- The second deed finishes what the first began. -/
inductive Deed.Finishes : Deed → Deed → Prop
  | command (stream : Nat) (received : List UInt8) : Finishes (.commandAccepted stream) (.commandServed stream received)
  | line (stream : Nat) (bytes : List UInt8) : Finishes (.lineBegun stream) (.line stream bytes)
  | drop (stream : Nat) : Finishes (.lineBegun stream) (.monitorDropped stream)

namespace EventLoop

variable {loop next : EventLoop} {deed : Deed}

/-- The loop has done this, and is not finished with the connection. -/
inductive Amid (loop : EventLoop) : Deed → Prop
  | command (stream deadline : Nat) (receives : loop.activity = .receiving stream deadline) :
      Amid loop (.commandAccepted stream)
  | line (index stream deadline : Nat) (kind : Kind) (report : Bool)
      (reads : loop.activity = .readingLine index deadline)
      (watched : loop.watch.items[index]? = some ⟨kind, .monitor stream, report⟩) : Amid loop (.lineBegun stream)

/-! ### What is ready -/

/-- What a loop that waits can take up. -/
inductive Source where
  | control
  /-- The connection that is watched at an index. -/
  | entry (index : Nat) (connection : Endpoint)
  deriving DecidableEq, Repr

namespace Source

/-- The order in which sources are looked at. -/
def place : Source → Nat
  | .control => 0
  | .entry index _ => index + 1

def connection? : Source → Option Endpoint
  | .control => none
  | .entry _ connection => some connection

/-- The listener at which somebody is accepted. -/
def listener? : Source → Option Nat
  | .entry _ (.commandListener listener) | .entry _ (.monitorListener listener) => some listener
  | _ => none

end Source

/-- The source is ready. -/
inductive Offers (loop : EventLoop) : Source → Prop
  | control (queued : loop.requests ≠ []) : Offers loop .control
  | entry (index : Nat) (entry : WatchEntry Endpoint) (watched : loop.watch.items[index]? = some entry)
      (ready : loop.isReady entry.connection = true) : Offers loop (.entry index entry.connection)

/-- The source is ready, and none that is ready comes before it. -/
structure Foremost (loop : EventLoop) (source : Source) : Prop where
  offered : loop.Offers source
  first : ∀ other, loop.Offers other → source.place ≤ other.place

/-- The turns of a loop that waits and has received no request. -/
inductive Selects (loop : EventLoop) : Option (Deed × EventLoop) → Prop
  | rests (nothing : ∀ source, ¬ loop.Offers source) : Selects loop none
  | request (control : Control) (requests : List Control) (queued : loop.requests = control :: requests)
      (foremost : loop.Foremost .control) :
      Selects loop (some (.requested control, { loop with requests, pending := some control }))
  | takesUp (index : Nat) (entry : WatchEntry Endpoint) (unasked : loop.requests = [])
      (foremost : loop.Foremost (.entry index entry.connection)) :
      Selects loop (some (loop.takeUp index entry.connection))

theorem selects (idle : loop.activity = .idle) (fresh : loop.pending = none) : loop.Selects loop.turn := by
  unfold turn
  simp only [idle, fresh]
  cases queued : loop.requests with
  | cons control requests =>
    have foremost : loop.Foremost .control := ⟨.control (by simp [queued]), fun other _ => Nat.zero_le other.place⟩
    have requested := Selects.request control requests queued foremost
    rwa [idle] at requested
  | nil =>
    cases found : loop.firstReady with
    | none =>
      refine .rests fun source offered => ?_
      cases offered with
      | control asked => exact asked queued
      | entry index entry watched ready =>
        have unready := List.findIdx?_eq_none_iff.mp found entry (List.mem_of_getElem? watched)
        rw [ready] at unready
        cases unready
    | some index =>
      obtain ⟨inside, ready, before⟩ := List.findIdx?_eq_some_iff_getElem.mp found
      have watched : loop.watch.items[index]? = some loop.watch.items[index] := List.getElem?_eq_getElem inside
      simp only [watched, Option.map_some]
      refine .takesUp index _ queued ⟨.entry index _ watched ready, ?_⟩
      intro other offered
      cases offered with
      | control asked => exact absurd queued asked
      | entry place entry there alsoReady =>
        refine Nat.succ_le_succ (Nat.not_lt.mp fun earlier => before place earlier ?_)
        obtain ⟨_, rfl⟩ := List.getElem?_eq_some_iff.mp there
        exact alsoReady

/-! ### What a turn takes up -/

/-- What is done with a source. -/
inductive Handles (loop : EventLoop) : Source → Deed → Prop
  | request (control : Control) (oldest : loop.requests.head? = some control) :
      Handles loop .control (.requested control)
  | failure (index : Nat) (fails : loop.busFails = true) : Handles loop (.entry index .bus) .busFailed
  | burst (index : Nat) (works : loop.busFails = false) :
      Handles loop (.entry index .bus) (.burst loop.controller.serviceInterrupt.1)
  | command (index listener stream : Nat) (oldest : (loop.waiting listener).head? = some stream) :
      Handles loop (.entry index (.commandListener listener)) (.commandAccepted stream)
  | monitor (index listener stream : Nat) (oldest : (loop.waiting listener).head? = some stream)
      (room : loop.watch.items.length < watchCapacity) :
      Handles loop (.entry index (.monitorListener listener)) (.monitorAccepted stream)
  | refusal (index listener stream : Nat) (oldest : (loop.waiting listener).head? = some stream)
      (full : loop.watch.items.length = watchCapacity) :
      Handles loop (.entry index (.monitorListener listener)) (.monitorRefused stream)
  | line (index stream : Nat) (something : (loop.streams stream).incoming ≠ []) :
      Handles loop (.entry index (.monitor stream)) (.lineBegun stream)
  | gone (index stream : Nat) (nothing : (loop.streams stream).incoming = []) :
      Handles loop (.entry index (.monitor stream)) (.monitorDropped stream)

/-- A source is taken up, the foremost, and the others stay as they are. -/
structure Selected (loop : EventLoop) (source : Source) (deed : Deed) (next : EventLoop) : Prop where
  foremost : loop.Foremost source
  handles : loop.Handles source deed
  requests : next.requests = if source = .control then loop.requests.tail else loop.requests
  controller : next.controller =
    if source.connection? = some .bus ∧ loop.busFails = false then loop.controller.serviceInterrupt.2
    else loop.controller
  port : next.busFails = if source.connection? = some .bus then false else loop.busFails
  waiting : ∀ listener, next.waiting listener =
    if source.listener? = some listener then (loop.waiting listener).tail else loop.waiting listener
  streams : ∀ stream, deed.client? ≠ some stream → (loop.streams stream).Unread (next.streams stream)
  pending : next.pending = deed.stops?
  /-- What is not over at once is gone on with. -/
  after : next.Amid deed ∨ next.activity = .idle ∧ (deed.isWhole = true ∨ deed.stops? ≠ none)

theorem Offers.entry_inv {index : Nat} {connection : Endpoint} (offered : loop.Offers (.entry index connection)) :
    ∃ kind report, loop.watch.items[index]? = some ⟨kind, connection, report⟩ ∧ loop.isReady connection = true := by
  generalize is : Source.entry index connection = source at offered
  cases offered with
  | control => cases is
  | entry _ entry watched ready =>
    obtain ⟨rfl, rfl⟩ := Source.entry.inj is
    exact ⟨entry.kind, entry.report, watched, ready⟩

/-- Announcing a notice reads from no connection, and closes those only that can not be written to. -/
theorem unread_announced (notice : List UInt8) (loop : EventLoop) (before entries : List (WatchEntry Endpoint))
    (items : loop.watch.items = before ++ entries) :
    (∃ left, (announced notice loop before.length entries).watch.items = before ++ left) ∧
      ∀ stream, (loop.streams stream).Unread ((announced notice loop before.length entries).streams stream) := by
  -- the entries in front stay where they are, so the index of one that could not be written to is still its own
  induction entries generalizing loop before with
  | nil => exact ⟨⟨[], items⟩, fun _ => .refl _⟩
  | cons entry rest ih =>
    have behind (other : EventLoop) (same : other.watch.items = before ++ entry :: rest) :
        (∃ left, (announced notice other (before.length + 1) rest).watch.items = before ++ entry :: left) ∧
          ∀ stream, (other.streams stream).Unread
            ((announced notice other (before.length + 1) rest).streams stream) := by
      simpa using ih other (before ++ [entry]) (by simp [same])
    have step := announced_cons notice loop before.length entry rest
    cases subscriber : entry.subscriber? with
    | none =>
      simp only [subscriber] at step
      rw [step]
      obtain ⟨⟨left, later⟩, unread⟩ := behind loop items
      exact ⟨⟨entry :: left, later⟩, unread⟩
    | some stream =>
      cases wrote : (loop.streams stream).write? notice with
      | some written =>
        simp only [subscriber, wrote] at step
        rw [step]
        obtain ⟨⟨left, later⟩, unread⟩ := behind (loop.setStream stream written) items
        refine ⟨⟨entry :: left, later⟩, fun other => ?_⟩
        have unreadOther := unread other
        by_cases same : other = stream
        · subst same
          exact Stream.unread_of_written wrote (by simpa [setStream] using unreadOther)
        · simpa [setStream, same] using unreadOther
      | none =>
        obtain ⟨⟨left, later⟩, unread⟩ := behind loop items
        obtain ⟨-, connection⟩ := WatchEntry.subscriber?_eq_some_iff.mp subscriber
        have watched : (announced notice loop (before.length + 1) rest).watch.items[before.length]? =
            some ⟨entry.kind, .monitor stream, entry.report⟩ := by
          simp [later, ← connection]
        obtain ⟨watch, dropped, erased⟩ := dropMonitor_eq _ watched
        simp only [subscriber, wrote, dropped] at step
        rw [step]
        have items : watch.items = before ++ left := by
          rw [erased, later, List.eraseIdx_append_of_length_le (Nat.le_refl _), Nat.sub_self, List.eraseIdx_cons_zero]
        refine ⟨⟨left, items⟩, fun other => ?_⟩
        by_cases same : other = stream
        · subst same
          exact .inr ⟨by simp [setStream, Stream.close], .inl (Stream.write?_eq_none_iff.mp wrote)⟩
        · simpa [setStream, same] using unread other

theorem unread_serviceBus (loop : EventLoop) (stream : Nat) :
    (loop.streams stream).Unread (loop.serviceBus.2.streams stream) := by
  unfold serviceBus
  rcases loop.controller.serviceInterrupt with ⟨_ | interrupt, controller⟩
  · exact .refl _
  · exact (unread_announced (replyBytes (Monitor.notice interrupt)) { loop with controller } [] loop.watch.items
      rfl).2 stream

theorem selected_takeUp {index : Nat} {connection : Endpoint} (idle : loop.activity = .idle)
    (fresh : loop.pending = none) (foremost : loop.Foremost (.entry index connection)) :
    loop.Selected (.entry index connection) (loop.takeUp index connection).1 (loop.takeUp index connection).2 := by
  obtain ⟨kind, report, watched, ready⟩ := foremost.offered.entry_inv
  have accepting (listener other : Nat) : (loop.accept listener).waiting other =
      if some listener = some other then (loop.waiting other).tail else loop.waiting other := by
    by_cases same : other = listener
    · simp [accept, same]
    · simp [accept, same, Ne.symm same]
  have waiter (listener : Nat) (waits : (!(loop.waiting listener).isEmpty) = true) :
      ∃ stream, (loop.waiting listener).head? = some stream :=
    Option.isSome_iff_exists.mp (by simpa using waits)
  have elsewhere {stream other : Nat} (value : Stream) (different : some stream ≠ some other) :
      (loop.streams other).Unread (if other = stream then value else loop.streams other) := by
    rw [if_neg fun same => different (congrArg some same.symm)]
    exact .refl _
  cases connection with
  | bus =>
    cases fails : loop.busFails with
    | true =>
      simp only [takeUp, fails, if_true, fresh]
      exact ⟨foremost, .failure index fails, rfl, by simp [fails], rfl, fun _ => rfl, fun _ _ => .refl _, rfl,
        .inr ⟨idle, .inr (by simp [Deed.stops?])⟩⟩
    | false =>
      obtain ⟨raised, watch, streams, serviced, -⟩ := loop.serviceBus_frame
      have unread := loop.unread_serviceBus
      simp only [takeUp, fails, Bool.false_eq_true, if_false, raised]
      rw [serviced] at unread ⊢
      exact ⟨foremost, .burst index fails, rfl, by simp [fails, Source.connection?], by simp [fails], fun _ => rfl,
        fun stream _ => unread stream, fresh, .inr ⟨idle, .inl rfl⟩⟩
  | commandListener listener =>
    obtain ⟨stream, oldest⟩ := waiter listener ready
    simp only [takeUp, oldest]
    exact ⟨foremost, .command index listener stream oldest, rfl, rfl, rfl, accepting listener, fun _ _ => .refl _,
      fresh, .inl (.command stream _ rfl)⟩
  | monitorListener listener =>
    obtain ⟨stream, oldest⟩ := waiter listener ready
    simp only [takeUp, oldest]
    rcases (loop.accept listener).addMonitor_eq stream with ⟨watch, added, -, room⟩ | ⟨refused, full⟩
    · rw [added]
      exact ⟨foremost, .monitor index listener stream oldest room, rfl, rfl, rfl, accepting listener,
        fun _ _ => .refl _, fresh, .inr ⟨idle, .inl rfl⟩⟩
    · rw [refused]
      exact ⟨foremost, .refusal index listener stream oldest full, rfl, rfl, rfl, accepting listener,
        fun _ different => elsewhere _ different, fresh, .inr ⟨idle, .inl rfl⟩⟩
  | monitor stream =>
    by_cases nothing : (loop.streams stream).incoming = []
    · obtain ⟨watch, dropped, -⟩ := loop.dropMonitor_eq watched
      simp only [takeUp, nothing, List.isEmpty_nil, if_true, dropped]
      exact ⟨foremost, .gone index stream nothing, rfl, rfl, rfl, fun _ => rfl,
        fun _ different => elsewhere _ different, fresh, .inr ⟨idle, .inl rfl⟩⟩
    · simp only [takeUp, List.isEmpty_iff, nothing, if_false]
      exact ⟨foremost, .line index stream nothing, rfl, rfl, rfl, fun _ => rfl, fun _ _ => .refl _, fresh,
        .inl (.line index stream _ kind report rfl watched)⟩

/-- A loop that waits takes up the foremost of what is ready, and nothing else. -/
theorem selected_of_turn (idle : loop.activity = .idle) (fresh : loop.pending = none)
    (turned : loop.turn = some (deed, next)) : ∃ source, loop.Selected source deed next := by
  have selects := loop.selects idle fresh
  rw [turned] at selects
  generalize taken : some (deed, next) = result at selects
  cases selects with
  | rests => cases taken
  | request control requests queued foremost =>
    obtain ⟨rfl, rfl⟩ := Prod.mk.inj (Option.some.inj taken)
    exact ⟨.control, foremost, .request control (by rw [queued, List.head?_cons]), by simp [queued], rfl, rfl,
      fun _ => rfl, fun _ _ => .refl _, rfl, .inr ⟨idle, .inr (by simp [Deed.stops?])⟩⟩
  | takesUp index entry unasked foremost =>
    obtain taken := Option.some.inj taken
    have selected := selected_takeUp idle fresh foremost
    rw [← taken] at selected
    exact ⟨_, selected⟩

/-- A loop waits only if nothing is ready. -/
theorem turn_eq_none_iff (idle : loop.activity = .idle) (fresh : loop.pending = none) :
    loop.turn = none ↔ ∀ source, ¬ loop.Offers source := by
  have selects := loop.selects idle fresh
  constructor
  · intro rests
    rw [rests] at selects
    cases selects with
    | rests nothing => exact nothing
  · intro nothing
    cases turned : loop.turn with
    | none => rfl
    | some result =>
      obtain ⟨source, selected⟩ := selected_of_turn idle fresh turned
      exact absurd selected.foremost.offered (nothing source)

theorem Foremost.eq_control {source : Source} (foremost : loop.Foremost source) (asked : loop.requests ≠ []) :
    source = .control := by
  have before := foremost.first .control (.control asked)
  cases source with
  | control => rfl
  | entry index connection => exact absurd before (Nat.not_succ_le_zero index)

/-- But for requests, the bus is before everything. -/
theorem Foremost.eq_bus {source : Source} (foremost : loop.Foremost source) (unasked : loop.requests = [])
    (first : loop.watch.BusFirst) (ready : busReady loop.controller.bus = true) : source = .entry 0 .bus := by
  obtain ⟨entry, front, bus⟩ := first
  rw [List.head?_eq_getElem?] at front
  have offered : loop.Offers (.entry 0 .bus) := bus ▸ .entry 0 entry front (by rw [bus]; exact ready)
  have before := foremost.first _ offered
  cases source with
  | control =>
    cases foremost.offered with
    | control asked => exact absurd unasked asked
  | entry index connection =>
    obtain rfl : index = 0 := Nat.le_zero.mp (Nat.succ_le_succ_iff.mp before)
    obtain ⟨kind, report, watched, -⟩ := foremost.offered.entry_inv
    obtain rfl := Option.some.inj (front.symm.trans watched)
    rw [← bus]

/-! ### What a turn goes on with -/

/-- What was begun is finished, and nothing else is touched. -/
structure GoesOn (loop : EventLoop) (begun deed : Deed) (next : EventLoop) : Prop where
  finishes : begun.Finishes deed
  requests : next.requests = loop.requests
  pending : next.pending = loop.pending
  port : next.busFails = loop.busFails
  waiting : next.waiting = loop.waiting
  /-- Nothing is taken from the bus unless the client asks for something that is answered there. -/
  controller : deed.leavesBus = true → loop.controller.Undisturbed next.controller
  streams : ∀ stream, begun.client? ≠ some stream → next.streams stream = loop.streams stream
  idle : next.activity = .idle

theorem streams_serveCommand (loop : EventLoop) {stream other : Nat} (different : other ≠ stream) :
    (loop.serveCommand stream).streams other = loop.streams other := by
  unfold serveCommand
  dsimp only
  split
  · exact if_neg different
  · exact if_neg different

theorem streams_dropMonitor (loop : EventLoop) {index stream other : Nat} {kind : Kind} {report : Bool}
    (watched : loop.watch.items[index]? = some ⟨kind, .monitor stream, report⟩) (different : other ≠ stream) :
    (loop.dropMonitor index).streams other = loop.streams other := by
  obtain ⟨watch, dropped, -⟩ := loop.dropMonitor_eq watched
  rw [dropped]
  exact if_neg different

theorem streams_answerLine (loop : EventLoop) {index stream other : Nat} {kind : Kind} {report : Bool}
    (line rest : List UInt8) (watched : loop.watch.items[index]? = some ⟨kind, .monitor stream, report⟩)
    (different : other ≠ stream) : (loop.answerLine index stream line rest).streams other = loop.streams other := by
  unfold answerLine
  simp only [watched]
  split
  · exact if_neg different
  · have stillWatched (flag : Bool) :
        (WatchSet.modify loop.watch index fun entry => { entry with report := flag }).items[index]? =
          some ⟨kind, .monitor stream, flag⟩ := by
      simp [WatchSet.modify, watched]
    exact (streams_dropMonitor _ (stillWatched _) different).trans (if_neg different)

theorem Amid.goesOn {begun : Deed} (amid : loop.Amid begun) (turned : loop.turn = some (deed, next)) :
    loop.GoesOn begun deed next := by
  have undisturbed := (turns_of_turn turned).undisturbed
  cases amid with
  | command stream deadline receives =>
    simp only [turn, receives, receive] at turned
    split at turned
    · obtain ⟨rfl, rfl⟩ := Prod.mk.inj (Option.some.inj turned)
      have others (other : Nat) (elsewhere : some stream ≠ some other) :
          ({ loop with activity := .idle }.serveCommand stream).streams other = loop.streams other :=
        streams_serveCommand _ fun same => elsewhere (congrArg some same.symm)
      obtain ⟨streams, served⟩ := serveCommand_frame { loop with activity := .idle } stream
      rw [served] at undisturbed others ⊢
      exact ⟨.command stream _, rfl, rfl, rfl, rfl, undisturbed, others, rfl⟩
    · cases turned
  | line index stream deadline kind report reads watched =>
    simp only [turn, reads, readLine, watched] at turned
    split at turned
    · obtain ⟨rfl, rfl⟩ := Prod.mk.inj (Option.some.inj turned)
      have others (other : Nat) (elsewhere : some stream ≠ some other) :=
        streams_answerLine { loop with activity := .idle } (cutLine maxLine (loop.streams stream).incoming).1
          (cutLine maxLine (loop.streams stream).incoming).2 watched fun same => elsewhere (congrArg some same.symm)
      obtain ⟨watch, streams, answered, -⟩ := answerLine_frame { loop with activity := .idle } index stream
        (cutLine maxLine (loop.streams stream).incoming).1 (cutLine maxLine (loop.streams stream).incoming).2 _ watched
      rw [answered] at undisturbed others ⊢
      exact ⟨.line stream _, rfl, rfl, rfl, rfl, undisturbed, others, rfl⟩
    · split at turned
      · obtain ⟨rfl, rfl⟩ := Prod.mk.inj (Option.some.inj turned)
        have others (other : Nat) (elsewhere : some stream ≠ some other) :=
          streams_dropMonitor { loop with activity := .idle } watched fun same => elsewhere (congrArg some same.symm)
        obtain ⟨watch, streams, dropped, -⟩ := dropMonitor_frame { loop with activity := .idle } index
        rw [dropped] at undisturbed others ⊢
        exact ⟨.drop stream, rfl, rfl, rfl, rfl, undisturbed, others, rfl⟩
      · cases turned

end EventLoop

end NodeBus
