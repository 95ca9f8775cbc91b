import NodeBus.Proofs.WatchedMonitors

/-!
# Subscriptions

Whether interrupts are announced to a monitor is a flag of its entry, and entries move. `subscribed` tells from the
deeds so far whether a monitor is subscribed, without the watch set; the flags agree with it in whatever way a run
goes (`Flagged`). From that, an interrupt is announced to those that are subscribed and to nobody else
(`interrupts_fan_out`).
-/
namespace NodeBus

/-- Is the monitor subscribed after some deeds? The last one that says something about it decides. -/
def subscribed (stream : Nat) (deeds : List Deed) : Bool :=
  ((deeds.filterMap (·.reporting? stream)).getLast?).getD false

theorem subscribed_snoc (stream : Nat) (deeds : List Deed) (deed : Deed) :
    subscribed stream (deeds ++ [deed]) = (deed.reporting? stream).getD (subscribed stream deeds) := by
  cases asks : deed.reporting? stream with
  | none => simp [subscribed, asks]
  | some report => simp [subscribed, asks]

/-- The subscription that an entry stands for, if it stands for a monitor. -/
def subscription (deeds : List Deed) (entry : WatchEntry Endpoint) : Bool :=
  entry.connection.monitor?.any fun stream => subscribed stream deeds

/-- The flags of all entries agree with what the monitors asked for. -/
def Flagged (watch : WatchSet Endpoint) (deeds : List Deed) : Prop :=
  ∀ entry ∈ watch.items, entry.report = subscription deeds entry

theorem Flagged.subscriber?_eq {watch : WatchSet Endpoint} {deeds : List Deed} (flagged : Flagged watch deeds)
    {entry : WatchEntry Endpoint} (member : entry ∈ watch.items) :
    entry.subscriber? = entry.connection.monitor?.filter fun stream => subscribed stream deeds := by
  rw [WatchEntry.subscriber?, flagged entry member, subscription]
  cases entry.connection.monitor? with
  | none => simp
  | some stream => cases asked : subscribed stream deeds <;> simp [asked, Option.filter]

theorem Flagged.mem_subscribersOf {watch : WatchSet Endpoint} {deeds : List Deed} (flagged : Flagged watch deeds)
    {stream : Nat} :
    stream ∈ subscribersOf watch.items ↔ stream ∈ monitorsOf watch.items ∧ subscribed stream deeds = true := by
  constructor
  · intro subscriber
    obtain ⟨entry, member, report, connection⟩ := NodeBus.mem_subscribersOf.mp subscriber
    refine ⟨mem_monitorsOf.mpr ⟨entry, member, connection⟩, ?_⟩
    simpa [subscription, connection, Endpoint.monitor?] using (flagged entry member).symm.trans report
  · rintro ⟨watched, asked⟩
    obtain ⟨entry, member, connection⟩ := mem_monitorsOf.mp watched
    refine NodeBus.mem_subscribersOf.mpr ⟨entry, member, ?_, connection⟩
    simp [flagged entry member, subscription, connection, Endpoint.monitor?, asked]

namespace EventLoop

variable {loop next : EventLoop} {deed : Deed} {later : List Nat}

/-- Marking an entry follows what the deed says about its monitor. -/
theorem report_marks {deeds : List Deed} {entry : WatchEntry Endpoint}
    (flagged : entry.report = subscription deeds entry) :
    (deed.marks entry).report = subscription (deeds ++ [deed]) (deed.marks entry) := by
  simp only [subscription, subscribed_snoc, Deed.marks]
  rw [flagged, subscription]
  cases entry.connection.monitor? <;> simp

theorem Turns.flagged (turns : Turns loop deed next) (distinct : loop.Distinct later) (deeds : List Deed)
    (flagged : Flagged loop.watch deeds) : Flagged next.watch (deeds ++ [deed]) := by
  intro entry member
  rw [turns.items_eq distinct, List.mem_append] at member
  rcases member with old | entered
  · obtain ⟨before, kept, rfl⟩ := List.mem_map.mp old
    exact report_marks (flagged before (List.mem_of_mem_filter kept))
  · cases deed with
    | monitorAccepted stream =>
      obtain rfl := List.mem_singleton.mp entered
      simp [subscription, Endpoint.monitor?, subscribed_snoc, Deed.reporting?]
    | _ => cases entered

/-- A monitor is subscribed, and a notice can not be written to it. -/
def misses (loop : EventLoop) (deeds : List Deed) (notice : List UInt8) (stream : Nat) : Bool :=
  subscribed stream deeds && ((loop.streams stream).write? notice).isNone

theorem failsToHear_eq {deeds : List Deed} (flagged : Flagged loop.watch deeds) (notice : List UInt8)
    {entry : WatchEntry Endpoint} (member : entry ∈ loop.watch.items) :
    loop.failsToHear notice entry = entry.connection.monitor?.any (loop.misses deeds notice) := by
  rw [failsToHear, flagged.subscriber?_eq member]
  cases entry.connection.monitor? with
  | none => simp
  | some stream => cases asked : subscribed stream deeds <;> simp [asked, misses, Option.filter]

/-- How an interrupt fans out, after some deeds. -/
structure FanOut (loop : EventLoop) (deeds : List Deed) (notice : List UInt8) (next : EventLoop) : Prop where
  /-- Every subscribed monitor is written to once. -/
  written : ∀ stream ∈ monitorsOf loop.watch.items, subscribed stream deeds = true →
    ∀ written, (loop.streams stream).write? notice = some written → next.streams stream = written
  /-- A client that is still connected and listens has the notice behind all it was sent before. -/
  heard : ∀ stream ∈ monitorsOf loop.watch.items, subscribed stream deeds = true →
    (loop.streams stream).reset = false → (loop.streams stream).deaf = false →
      next.streams stream = { loop.streams stream with outgoing := (loop.streams stream).outgoing ++ notice }
  /-- One that could not be written to is closed. -/
  closed : ∀ stream ∈ monitorsOf loop.watch.items, subscribed stream deeds = true →
    (loop.streams stream).write? notice = none → next.streams stream = (loop.streams stream).close
  /-- No other connection is written to. -/
  others : ∀ stream, (stream ∈ monitorsOf loop.watch.items → subscribed stream deeds = false) →
    next.streams stream = loop.streams stream
  /-- Exactly the monitors that could not be written to are removed. The other entries keep their kind, their flag and
  their order. -/
  left : next.watch.items =
    loop.watch.items.filter fun entry => !entry.connection.monitor?.any (loop.misses deeds notice)

theorem fanOut_of_flagged {deeds : List Deed} (flagged : Flagged loop.watch deeds) {notice : List UInt8}
    (streams : next.streams = loop.toldStreams notice loop.watch.items)
    (items : next.watch.items = loop.watch.items.filter fun entry => !loop.failsToHear notice entry) :
    loop.FanOut deeds notice next := by
  have told {stream : Nat} (watched : stream ∈ monitorsOf loop.watch.items) (asked : subscribed stream deeds = true) :
      next.streams stream = (loop.streams stream).writtenOrClosed notice := by
    rw [streams, toldStreams, if_pos (flagged.mem_subscribersOf.mpr ⟨watched, asked⟩)]
  constructor
  case written =>
    intro stream watched asked written wrote
    rw [told watched asked, Stream.writtenOrClosed, wrote, Option.getD_some]
  case heard =>
    intro stream watched asked connected listening
    simp [told watched asked, Stream.writtenOrClosed, Stream.write?, connected, listening]
  case closed =>
    intro stream watched asked failed
    rw [told watched asked, Stream.writtenOrClosed, failed, Option.getD_none]
  case others =>
    intro stream unsubscribed
    rw [streams, toldStreams, if_neg]
    intro subscriber
    obtain ⟨watched, asked⟩ := flagged.mem_subscribersOf.mp subscriber
    simp [unsubscribed watched] at asked
  case left =>
    rw [items]
    apply List.filter_congr
    intro entry member
    rw [failsToHear_eq flagged notice member]

/-- What servicing the bus comes to. -/
theorem Turns.serviced {raised : Option Interrupt} (turns : Turns loop (.burst raised) next) :
    loop.serviceBus = (raised, next) := by
  generalize taken : Deed.burst raised = deed at turns
  cases turns with
  | burst =>
    obtain rfl := Deed.burst.inj taken
    rfl
  | monitorConnects listener other =>
    rcases (loop.accept listener).addMonitor_eq other with ⟨watch, added, -⟩ | ⟨refused, -⟩
    · simp [added] at taken
    · simp [refused] at taken
  | _ => cases taken

/-- **Interrupts fan out** to those that are subscribed, in whatever way a run goes that numbers its connections
apart. -/
theorem interrupts_fan_out (controller : Controller) (helper : Helper) (listeners : List (Kind × Endpoint))
    (listen : ∀ listener ∈ listeners, IsListener listener) (few : listeners.length + 1 ≤ 16)
    (run : List Happening) (apart : (connections run).Nodup) :
    let loop := (start controller helper listeners).after run
    let deeds := (start controller helper listeners).deeds run
    (∀ raised next, loop.turn = some (.burst raised, next) → loop.serviceBus = (raised, next)) ∧
      ((loop.controller.serviceInterrupt).1 = none → loop.serviceBus =
        (none, { loop with controller := (loop.controller.serviceInterrupt).2 })) ∧
      ∀ interrupt, (loop.controller.serviceInterrupt).1 = some interrupt →
        ∃ next, loop.serviceBus = (some interrupt, next) ∧
          next.controller = (loop.controller.serviceInterrupt).2 ∧
          loop.FanOut deeds (replyBytes (Monitor.notice interrupt)) next := by
  intro loop deeds
  have distinct : (start controller helper listeners).Distinct (connections (run ++ [])) := by
    simpa using distinct_start listen few controller helper apart
  have flagged : Flagged loop.watch deeds := by
    apply run_keeps (motive := Flagged) distinct.before
    · intro entry member
      rw [watch_start controller helper few] at member
      obtain ⟨-, notMonitor, quiet⟩ := isPermanent_of_mem listen member
      simp [subscription, notMonitor, quiet]
    · exact fun deeds distinct turns flagged => turns.flagged distinct deeds flagged
  rcases raised : loop.controller.serviceInterrupt with ⟨_ | interrupt, after⟩
  · refine ⟨fun _ _ turned => (turns_of_turn turned).serviced, fun _ => loop.serviceBus_none raised, ?_⟩
    simp
  · refine ⟨fun _ _ turned => (turns_of_turn turned).serviced, by simp, ?_⟩
    intro other same
    obtain rfl : interrupt = other := by simpa using same
    obtain ⟨watch, serviced, left⟩ := loop.serviceBus_some raised distinct.after.monitors
    exact ⟨_, serviced, rfl, fanOut_of_flagged flagged rfl left⟩

/-! ### Four monitors -/

/-- Nobody answers on the bus. -/
def quietBus : EventLoop := start { settings := { retries := 0 }, bus := {} } {} monitorsOnly

/-- The client sends a line, which the loop reads and answers. -/
def asks (stream : Nat) (line : List UInt8) : List Happening :=
  [.client stream fun connection => { connection with incoming := connection.incoming ++ line }, .turn, .turn]

/-- Of four monitors the first and the third subscribe, the second changes its mind, the fourth asks for nothing. Then
the third is reset, and a node asks for attention. -/
def fourMonitors : List Happening :=
  (List.range' 1 4).map (.connects 0) ++ List.replicate 4 .turn ++
    asks 1 [0x49, 0x45, newline] ++ asks 2 [0x49, 0x45, newline] ++ asks 3 [0x49, 0x45, newline] ++
    asks 2 [0x49, 0x44, newline] ++
    [.client 3 fun connection => { connection with reset := true },
      .busDelivers { bytes := [0x02, 0x04, 0x02, 0x05, 0xAE, 0x03] }]

/-- The first hears of it, the third is removed, and nothing changes for the others. -/
theorem fourMonitors_fanOut :
    ∃ next, (quietBus.after fourMonitors).turn =
        some (.burst (some { address := 0x05, reason := (0, 0, 0) }), next) ∧
      (quietBus.after fourMonitors).FanOut (quietBus.deeds fourMonitors)
        (replyBytes (Monitor.notice { address := 0x05, reason := (0, 0, 0) })) next ∧
      next.watch.items.map (fun entry => (entry.connection, entry.report)) =
        [(.bus, false), (.monitorListener 0, false), (.monitor 1, true), (.monitor 2, false), (.monitor 4, false)] ∧
      [1, 2, 3, 4].map (fun stream => (next.streams stream).outgoing) =
        ["OK\nEI05000000\n", "OK\nOK\n", "OK\n", ""].map fun heard => heard.toByteArray.data.toList := by
  have free : (quietBus.after fourMonitors).Free := ⟨by decide +kernel, by decide +kernel, by decide +kernel⟩
  have first := busFirst_after quietBus fourMonitors (busFirst_start _ _ monitorsOnly)
  have turned := turn_of_busReady first free (by decide +kernel)
  have raised : (quietBus.after fourMonitors).controller.serviceInterrupt.1 =
      some { address := 0x05, reason := (0, 0, 0) } := by decide +kernel
  obtain ⟨-, -, fansOut⟩ := interrupts_fan_out { settings := { retries := 0 }, bus := {} } {} monitorsOnly
    isListener_monitorsOnly (by decide) fourMonitors (by decide)
  obtain ⟨next, serviced, -, fanOut⟩ := fansOut _ raised
  obtain rfl : (quietBus.after fourMonitors).serviceBus.2 = next := congrArg Prod.snd serviced
  refine ⟨_, ?_, fanOut, by decide +kernel, by decide +kernel⟩
  rw [turned]
  exact congrArg (fun result => some (Deed.burst result.1, (quietBus.after fourMonitors).serviceBus.2)) serviced

end EventLoop

end NodeBus
