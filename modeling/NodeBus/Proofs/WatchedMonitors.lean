import NodeBus.Proofs.ConnectionNumbers

/-!
# The watched monitors

In whatever way a run goes (`watch_set_kept`), the bus and the listeners stay in front of the watch set, the connected
monitors follow in the order in which they were accepted, and only they have interrupts announced. A monitor is lost
with a cause only (`Lost`), and one that finds the set full is refused.
-/
namespace NodeBus

/-- The entry stands for a connected monitor. -/
structure WatchEntry.IsConnected (entry : WatchEntry Endpoint) : Prop where
  kind : entry.kind = .connectedText
  connection : ∃ stream, entry.connection = .monitor stream

/-- A listener is nothing that could be taken for a connected monitor. -/
structure IsListener (listener : Kind × Endpoint) : Prop where
  kind : listener.1 ≠ .connectedText
  connection : listener.2.monitor? = none

/-- The entry of a listener. -/
def listening (listener : Kind × Endpoint) : WatchEntry Endpoint :=
  { kind := listener.1, connection := listener.2 }

/-- The entries that a loop starts with: the bus, then the listeners in the order given. -/
def permanent (listeners : List (Kind × Endpoint)) : List (WatchEntry Endpoint) :=
  ((Kind.serial, Endpoint.bus) :: listeners).map listening

@[simp] theorem length_permanent (listeners : List (Kind × Endpoint)) :
    (permanent listeners).length = listeners.length + 1 := by
  simp [permanent]

/-- What holds of every permanent entry. -/
structure WatchEntry.IsPermanent (entry : WatchEntry Endpoint) : Prop where
  kind : entry.kind ≠ .connectedText
  connection : entry.connection.monitor? = none
  quiet : entry.report = false

theorem isPermanent_of_mem {listeners : List (Kind × Endpoint)}
    (listen : ∀ listener ∈ listeners, IsListener listener) {entry : WatchEntry Endpoint}
    (member : entry ∈ permanent listeners) : entry.IsPermanent := by
  obtain ⟨listener, listed, rfl⟩ := List.mem_map.mp member
  rcases List.mem_cons.mp listed with same | listed
  · rw [same]
    exact ⟨nofun, rfl, rfl⟩
  · obtain ⟨notConnected, notMonitor⟩ := listen _ listed
    exact ⟨notConnected, notMonitor, rfl⟩

/-- Listeners are entered as long as there is room. -/
theorem items_addListeners (set : WatchSet Endpoint) (listeners : List (Kind × Endpoint))
    (room : set.items.length + listeners.length ≤ watchCapacity) :
    (listeners.foldl (fun watch (kind, endpoint) => (WatchSet.add? watch kind endpoint).getD watch) set).items =
      set.items ++ listeners.map listening := by
  induction listeners generalizing set with
  | nil => simp
  | cons listener rest ih =>
    obtain ⟨kind, connection⟩ := listener
    simp only [List.length_cons] at room
    have fits : set.items.length < watchCapacity := by omega
    obtain ⟨longer, added⟩ : ∃ longer, WatchSet.add? set kind connection = some longer := by
      simp [WatchSet.add?, Bounded.push?, fits]
    have items := Bounded.items_of_push? added
    have room : longer.items.length + rest.length ≤ watchCapacity := by
      simp only [items, List.length_append, List.length_singleton]
      omega
    simp [added, ih longer room, items, listening]

namespace EventLoop

theorem watch_start (controller : Controller) (helper : Helper) {listeners : List (Kind × Endpoint)}
    (few : listeners.length + 1 ≤ watchCapacity) :
    (start controller helper listeners).watch.items = permanent listeners := by
  apply items_addListeners
  simpa [Bounded.empty] using few

variable {loop next : EventLoop} {deed : Deed} {later : List Nat} {run : List Happening}

/-! ### Losing a monitor -/

/-- Why a turn loses a monitor. -/
inductive Lost (loop : EventLoop) (stream : Nat) : Deed → Prop
  /-- Its client has closed it, reading from it failed, or nothing came in time. -/
  | gone (index : Nat) (kind : Kind) (report : Bool)
      (watched : loop.watch.items[index]? = some ⟨kind, .monitor stream, report⟩) (gone : loop.Over index stream) :
      Lost loop stream (.monitorDropped stream)
  /-- The answer to its line could not be written. -/
  | unanswered (line : List UInt8)
      (failed : (loop.streams stream).write? (replyBytes (loop.reply line)) = none) :
      Lost loop stream (.line stream line)
  /-- An interrupt that is announced to it could not be written. -/
  | unheard (interrupt : Interrupt) (subscribed : stream ∈ subscribersOf loop.watch.items)
      (failed : (loop.streams stream).write? (replyBytes (Monitor.notice interrupt)) = none) :
      Lost loop stream (.burst (some interrupt))

/-- Nothing but monitors is lost, each with a cause. -/
theorem Turns.lost (turns : Turns loop deed next) {entry : WatchEntry Endpoint} (member : entry ∈ loop.watch.items)
    (loses : loop.loses deed entry = true) :
    ∃ stream, entry.connection = .monitor stream ∧ loop.Lost stream deed := by
  generalize asked : deed = done at turns loses
  cases turns with
  | monitorDropped index stream kind report watched gone =>
    exact ⟨stream, by simpa [EventLoop.loses] using loses, .gone index kind report watched gone⟩
  | line index stream kind report bytes =>
    simp only [EventLoop.loses, Bool.and_eq_true, WatchEntry.isFor_iff, Option.isNone_iff_eq_none] at loses
    exact ⟨stream, loses.1, .unanswered bytes loses.2⟩
  | burst =>
    cases raised : loop.serviceBus.1 with
    | none => simp [EventLoop.loses, raised] at loses
    | some interrupt =>
      simp only [EventLoop.loses, raised, failsToHear, Option.any_eq_true, Option.isNone_iff_eq_none] at loses
      obtain ⟨stream, subscriber, failed⟩ := loses
      have listed : stream ∈ subscribersOf loop.watch.items := List.mem_filterMap.mpr ⟨entry, member, subscriber⟩
      exact ⟨stream, (WatchEntry.subscriber?_eq_some_iff.mp subscriber).2, .unheard interrupt listed failed⟩
  | monitorConnects listener stream =>
    rcases (loop.accept listener).addMonitor_eq stream with ⟨watch, added, -⟩ | ⟨refused, -⟩
    · simp [EventLoop.loses, added] at loses
    · simp [EventLoop.loses, refused] at loses
  | _ => simp [EventLoop.loses] at loses

/-- A monitor that is lost is not watched any more. -/
theorem Turns.unwatched_of_loses (turns : Turns loop deed next) (distinct : loop.Distinct later)
    {entry : WatchEntry Endpoint} (member : entry ∈ loop.watch.items) {stream : Nat}
    (connection : entry.connection = .monitor stream) (loses : loop.loses deed entry = true) :
    stream ∉ monitorsOf next.watch.items := by
  have enters : deed.entered = [] := by
    cases deed with
    | monitorAccepted => simp [EventLoop.loses] at loses
    | _ => rfl
  intro still
  rw [turns.monitors_eq distinct, enters, monitorsOf, monitorsOf, List.filterMap_nil, List.append_nil] at still
  obtain ⟨other, kept, alsoConnection⟩ := mem_monitorsOf.mp still
  obtain ⟨listed, stays⟩ := List.mem_filter.mp kept
  have once := countP_isFor_le_one distinct.monitors stream
  obtain rfl : other = entry := eq_of_countP_le_one once member (by simpa) listed (by simpa)
  simp [loses] at stays

/-! ### What every run keeps -/

/-- Behind the bus and the listeners stand connected monitors only. -/
def Watches (listeners : List (Kind × Endpoint)) (watch : WatchSet Endpoint) : Prop :=
  ∃ connected, watch.items = permanent listeners ++ connected ∧ ∀ entry ∈ connected, entry.IsConnected

theorem Deed.isConnected_entered {deed : Deed} {entry : WatchEntry Endpoint} (entered : entry ∈ deed.entered) :
    entry.IsConnected := by
  cases deed with
  | monitorAccepted stream =>
    obtain rfl := List.mem_singleton.mp entered
    exact ⟨rfl, stream, rfl⟩
  | _ => cases entered

variable {listeners : List (Kind × Endpoint)} (listen : ∀ listener ∈ listeners, IsListener listener)
include listen

theorem Turns.watches (turns : Turns loop deed next) (distinct : loop.Distinct later)
    (watches : Watches listeners loop.watch) : Watches listeners next.watch := by
  obtain ⟨connected, items, monitors⟩ := watches
  have kept : (permanent listeners).filter (fun entry => !loop.loses deed entry) = permanent listeners := by
    apply List.filter_eq_self.mpr
    intro entry member
    have listed : entry ∈ loop.watch.items := by simp [items, member]
    by_contra loses
    obtain ⟨stream, connection, -⟩ := turns.lost listed (by simpa using loses)
    simpa [connection, Endpoint.monitor?] using (isPermanent_of_mem listen member).connection
  have unmarked : (permanent listeners).map deed.marks = (permanent listeners).map id := by
    apply List.map_congr_left
    intro entry member
    apply Deed.marks_eq_self
    intro stream connection
    simpa [connection, Endpoint.monitor?] using (isPermanent_of_mem listen member).connection
  refine ⟨(connected.filter fun entry => !loop.loses deed entry).map deed.marks ++ deed.entered, ?_, ?_⟩
  · rw [turns.items_eq distinct, items, List.filter_append, List.map_append, kept, unmarked]
    simp
  · intro entry member
    rcases List.mem_append.mp member with old | entered
    · obtain ⟨before, listed, rfl⟩ := List.mem_map.mp old
      obtain ⟨kind, connection⟩ := monitors before (List.mem_of_mem_filter listed)
      exact ⟨kind, connection⟩
    · exact Deed.isConnected_entered entered

/-- The entries that have interrupts announced are connected monitors. -/
theorem Watches.quiet {watch : WatchSet Endpoint} (watches : Watches listeners watch)
    {entry : WatchEntry Endpoint} (member : entry ∈ watch.items) (report : entry.report = true) :
    entry.kind = .connectedText := by
  obtain ⟨connected, items, monitors⟩ := watches
  rw [items, List.mem_append] at member
  rcases member with permanent | member
  · simp [(isPermanent_of_mem listen permanent).quiet] at report
  · exact (monitors entry member).kind

theorem Watches.count {watch : WatchSet Endpoint} (watches : Watches listeners watch) :
    WatchSet.count watch .connectedText = watch.items.length - (listeners.length + 1) := by
  obtain ⟨connected, items, monitors⟩ := watches
  have none : (permanent listeners).countP (·.kind == .connectedText) = 0 := by
    apply List.countP_eq_zero.mpr
    intro entry member
    simpa using (isPermanent_of_mem listen member).kind
  have all : connected.countP (·.kind == .connectedText) = connected.length := by
    apply List.countP_eq_length.mpr
    intro entry member
    simpa using (monitors entry member).kind
  rw [WatchSet.count, items, List.countP_append, none, all, List.length_append, length_permanent]
  omega

theorem monitorsOf_permanent : monitorsOf (permanent listeners) = [] := by
  apply List.filterMap_eq_nil_iff.mpr
  intro entry member
  exact (isPermanent_of_mem listen member).connection

variable (few : listeners.length + 1 ≤ watchCapacity)
include few

omit listen in
theorem watches_start (controller : Controller) (helper : Helper) :
    Watches listeners (start controller helper listeners).watch :=
  ⟨[], by simp [watch_start controller helper few], by simp⟩

theorem monitorsOf_start (controller : Controller) (helper : Helper) :
    monitorsOf (start controller helper listeners).watch.items = [] := by
  rw [watch_start controller helper few, monitorsOf_permanent listen]

/-- A loop that starts knows no connections. -/
theorem distinct_start (controller : Controller) (helper : Helper) (apart : later.Nodup) :
    (start controller helper listeners).Distinct later := by
  have noMonitor := monitorsOf_start listen few controller helper
  have untaken : (start controller helper listeners).taken = [] := by
    rw [taken, noMonitor]
    rfl
  have unexpected (listener : Nat) : (start controller helper listeners).waiting listener = [] := rfl
  constructor
  case taken => simp [untaken]
  case waiting => simp [unexpected]
  case oneListener => simp [unexpected]
  case expected => simp [unexpected]
  case once => exact apart
  case fresh => simp [untaken, unexpected]

omit listen few

/-- The monitors stand in the order in which they were accepted. -/
theorem Turns.ordered (turns : Turns loop deed next) (distinct : loop.Distinct later) (deeds : List Deed)
    (ordered : (monitorsOf loop.watch.items).Sublist (admissions deeds)) :
    (monitorsOf next.watch.items).Sublist (admissions (deeds ++ [deed])) := by
  have fewer : (monitorsOf (loop.watch.items.filter fun entry => !loop.loses deed entry)).Sublist
      (monitorsOf loop.watch.items) := List.filter_sublist.filterMap _
  have admitted : admissions (deeds ++ [deed]) = admissions deeds ++ monitorsOf deed.entered := by
    simp [admissions]
  rw [turns.monitors_eq distinct, admitted]
  exact (fewer.trans ordered).append_right _

/-- How the watch set of a loop that started with some listeners looks after some deeds. -/
structure WatchKept (listeners : List (Kind × Endpoint)) (deeds : List Deed) (loop : EventLoop) : Prop where
  /-- The bus and the listeners stand in front as they did at the start, and behind them connected monitors. -/
  entries : Watches listeners loop.watch
  /-- The monitors stand in the order in which they were accepted. -/
  ordered : (monitorsOf loop.watch.items).Sublist (admissions deeds)
  /-- None was accepted twice. -/
  once : (admissions deeds).Nodup
  bounded : loop.watch.items.length ≤ 16
  /-- Interrupts are announced to connected monitors only. -/
  quiet : ∀ entry ∈ loop.watch.items, entry.report = true → entry.kind = .connectedText
  counted : loop.monitors = loop.watch.items.length - (listeners.length + 1)

/-- What one more turn does to the watch set. -/
structure WatchTurn (loop : EventLoop) (deed : Deed) (next : EventLoop) : Prop where
  /-- Some entries are lost, the others keep their place with at most their flag changed. A monitor that was accepted
  is entered behind them. -/
  items : next.watch.items =
    (loop.watch.items.filter fun entry => !loop.loses deed entry).map deed.marks ++ deed.entered
  /-- Whoever is not watched any more was lost with a cause. -/
  lost : ∀ stream ∈ monitorsOf loop.watch.items, stream ∉ monitorsOf next.watch.items → loop.Lost stream deed
  accepted : ∀ stream, deed = .monitorAccepted stream → loop.watch.items.length < 16
  /-- A monitor is refused when the set is full, and then no entry changes. -/
  refused : ∀ stream, deed = .monitorRefused stream → loop.watch.items.length = 16 ∧ next.watch = loop.watch

theorem Turns.watchTurn (turns : Turns loop deed next) (distinct : loop.Distinct later) :
    loop.WatchTurn deed next := by
  have items := turns.items_eq distinct
  constructor
  case items => exact items
  case lost =>
    intro stream watched missing
    obtain ⟨entry, member, connection⟩ := mem_monitorsOf.mp watched
    by_cases loses : loop.loses deed entry = true
    · obtain ⟨other, alsoConnection, lost⟩ := turns.lost member loses
      obtain rfl : other = stream := by simpa [connection, eq_comm] using alsoConnection
      exact lost
    · have stays : entry ∈ loop.watch.items.filter fun entry => !loop.loses deed entry := by
        simpa [member] using loses
      rw [turns.monitors_eq distinct] at missing
      exact absurd (List.mem_append_left _ (mem_monitorsOf.mpr ⟨entry, stays, connection⟩)) missing
  case accepted =>
    rintro stream rfl
    have fits := next.watch.fits
    simp only [items, List.length_append, List.length_map, Deed.entered, List.length_singleton] at fits
    simpa [loses, watchCapacity] using fits
  case refused =>
    rintro stream rfl
    generalize taken : Deed.monitorRefused stream = deed at turns
    cases turns with
    | monitorConnects listener other =>
      rcases (loop.accept listener).addMonitor_eq other with ⟨watch, added, -⟩ | ⟨refused, full⟩
      · simp [added] at taken
      · rw [refused]
        exact ⟨full, rfl⟩
    | _ => cases taken

/-- Whether a monitor that connects is accepted depends on the room left. -/
theorem takeUp_monitorListener (loop : EventLoop) (index : Nat) {listener stream : Nat}
    (first : (loop.waiting listener).head? = some stream) :
    (loop.takeUp index (.monitorListener listener)).1 =
      if loop.watch.items.length = 16 then .monitorRefused stream else .monitorAccepted stream := by
  simp only [takeUp, first]
  rcases (loop.accept listener).addMonitor_eq stream with ⟨watch, added, -, room⟩ | ⟨refused, full⟩
  · have room : loop.watch.items.length ≠ 16 := Nat.ne_of_lt room
    simp [added, room]
  · have full : loop.watch.items.length = 16 := full
    simp [refused, full]

/-- The monitors stand in the order in which they were accepted, after any run. -/
theorem ordered_after (distinct : loop.Distinct (connections run)) (none : monitorsOf loop.watch.items = []) :
    (monitorsOf (loop.after run).watch.items).Sublist (admissions (loop.deeds run)) := by
  apply run_keeps (motive := fun watch deeds => (monitorsOf watch.items).Sublist (admissions deeds)) distinct
  · simp [none]
  · exact fun deeds distinct turns ordered => turns.ordered distinct deeds ordered

/-- **The watch set is kept**, in whatever way a run goes that numbers its connections apart. -/
theorem watch_set_kept (controller : Controller) (helper : Helper) (listeners : List (Kind × Endpoint))
    (listen : ∀ listener ∈ listeners, IsListener listener) (few : listeners.length + 1 ≤ 16)
    (run : List Happening) (apart : (connections run).Nodup) :
    let loop := (start controller helper listeners).after run
    loop.WatchKept listeners ((start controller helper listeners).deeds run) ∧
      (∀ deed next, loop.turn = some (deed, next) → loop.WatchTurn deed next) ∧
      ∀ index listener stream, (loop.waiting listener).head? = some stream →
        (loop.takeUp index (.monitorListener listener)).1 =
          if loop.watch.items.length = 16 then .monitorRefused stream else .monitorAccepted stream := by
  intro loop
  have distinct := distinct_start listen few controller helper apart
  have entries : Watches listeners loop.watch := by
    apply run_keeps (motive := fun watch _ => Watches listeners watch) distinct
    · exact watches_start few controller helper
    · exact fun _ distinct turns watches => turns.watches listen distinct watches
  have noMonitor := monitorsOf_start listen few controller helper
  refine ⟨?_, ?_, loop.takeUp_monitorListener⟩
  · constructor
    case entries => exact entries
    case ordered => exact ordered_after distinct noMonitor
    case once => exact (newcomers_nodup distinct).sublist (admissions_sublist _)
    case bounded => exact loop.watch.fits
    case quiet => exact fun entry member report => entries.quiet listen member report
    case counted => exact entries.count listen
  · intro deed next turned
    have distinct : (start controller helper listeners).Distinct (connections (run ++ [])) := by
      simpa using distinct
    exact (turns_of_turn turned).watchTurn distinct.after

/-! ### A full house -/

/-- The only listener is one for monitors. -/
def monitorsOnly : List (Kind × Endpoint) := [(.inet4Text, .monitorListener 0)]

theorem isListener_monitorsOnly : ∀ listener ∈ monitorsOnly, IsListener listener := by
  intro listener member
  obtain rfl := List.mem_singleton.mp member
  exact ⟨nofun, rfl⟩

/-- Fifteen monitors connect, one more than there is room for. Then the second one leaves, and another one connects. -/
def fullHouse : List Happening :=
  (List.range' 1 15).map (.connects 0) ++ List.replicate 15 .turn ++
    [.client 2 fun stream => { stream with finished := true }, .turn, .connects 0 16, .turn]

/-- The fifteenth monitor is refused, and the one that connects after the second has left is entered last. -/
theorem fullHouse_kept :
    let loop := (start { settings := {}, bus := {} } {} monitorsOnly).after fullHouse
    loop.WatchKept monitorsOnly ((start { settings := {}, bus := {} } {} monitorsOnly).deeds fullHouse) ∧
      monitorsOf loop.watch.items = [1, 3, 4, 5, 6, 7, 8, 9, 10, 11, 12, 13, 14, 16] ∧ loop.monitors = 14 := by
  obtain ⟨kept, -⟩ := watch_set_kept { settings := {}, bus := {} } {} monitorsOnly isListener_monitorsOnly
    (by decide) fullHouse (by decide)
  exact ⟨kept, by decide +kernel, by decide +kernel⟩

end EventLoop

end NodeBus
