import NodeBus.Proofs.WatchTurns

/-!
# The numbers of connections

Runs keep the numbers of connections apart (`Distinct.after`), provided that no two connections are made with the
same number (`connections`). Then no connection is accepted twice (`newcomers_nodup`).
-/
namespace NodeBus

/-- The connection that a deed takes off a listener. -/
def Deed.newcomer? : Deed → Option Nat
  | .commandAccepted stream | .monitorAccepted stream | .monitorRefused stream => some stream
  | _ => none

namespace EventLoop

variable {loop next : EventLoop} {deed : Deed} {later : List Nat}

theorem Distinct.of_sublist (distinct : loop.Distinct later) (fewer : next.taken.Sublist loop.taken)
    (same : next.waiting = loop.waiting) : next.Distinct later where
  taken := distinct.taken.sublist fewer
  waiting := by simpa [same] using distinct.waiting
  oneListener := by simpa [same] using distinct.oneListener
  expected listener stream waits := by
    have waits : stream ∈ loop.waiting listener := by simpa [same] using waits
    exact fun member => distinct.expected listener stream waits (fewer.subset member)
  once := distinct.once
  fresh stream member := by
    obtain ⟨untaken, unexpected⟩ := distinct.fresh stream member
    exact ⟨fun taken => untaken (fewer.subset taken), by simpa [same] using unexpected⟩

theorem mem_waiting_of_accept {listener other stream : Nat}
    (waits : stream ∈ (loop.accept listener).waiting other) : stream ∈ loop.waiting other := by
  unfold accept at waits
  dsimp only at waits
  split at waits
  · rename_i same
    exact same ▸ List.mem_of_mem_tail waits
  · exact waits

/-- A connection that was accepted waits no more. -/
theorem Distinct.accepted (distinct : loop.Distinct later) {listener stream : Nat}
    (first : (loop.waiting listener).head? = some stream) (other : Nat) :
    stream ∉ (loop.accept listener).waiting other := by
  obtain ⟨rest, queue⟩ := List.head?_eq_some_iff.mp first
  have waits : stream ∈ loop.waiting listener := by simp [queue]
  intro still
  obtain rfl := distinct.oneListener _ _ _ (mem_waiting_of_accept still) waits
  have behind : stream ∈ rest := by simpa [EventLoop.accept, queue] using still
  have once := distinct.waiting other
  simp [queue, behind] at once

/-- The connection that has waited longest is taken. -/
theorem Distinct.accept (distinct : loop.Distinct later) {listener stream : Nat}
    (first : (loop.waiting listener).head? = some stream)
    (fewer : next.taken.Sublist (loop.taken ++ [stream]))
    (same : next.waiting = (loop.accept listener).waiting) : next.Distinct later := by
  have waits : stream ∈ loop.waiting listener := List.mem_of_mem_head? first
  have untaken : stream ∉ loop.taken := distinct.expected listener stream waits
  have notTaken {other : Nat} (different : other ≠ stream) (old : other ∉ loop.taken) : other ∉ next.taken := by
    intro member
    have listed := fewer.subset member
    simp [different, old] at listed
  constructor
  case taken =>
    have longer : (stream :: loop.taken).Nodup := List.nodup_cons.mpr ⟨untaken, distinct.taken⟩
    exact List.Nodup.sublist fewer (List.nodup_append_comm.mp longer)
  case waiting =>
    intro other
    rw [same]
    unfold EventLoop.accept
    dsimp only
    split
    · exact (distinct.waiting listener).sublist (List.tail_sublist _)
    · exact distinct.waiting other
  case oneListener =>
    intro first second other inFirst inSecond
    rw [same] at inFirst inSecond
    exact distinct.oneListener _ _ other (mem_waiting_of_accept inFirst) (mem_waiting_of_accept inSecond)
  case expected =>
    intro other waiter waiting
    rw [same] at waiting
    have different : waiter ≠ stream := by
      rintro rfl
      exact distinct.accepted first other waiting
    exact notTaken different (distinct.expected other waiter (mem_waiting_of_accept waiting))
  case once => exact distinct.once
  case fresh =>
    intro newcomer member
    obtain ⟨old, unknown⟩ := distinct.fresh newcomer member
    have different : newcomer ≠ stream := by
      rintro rfl
      exact unknown listener waits
    refine ⟨notTaken different old, ?_⟩
    intro other waiting
    rw [same] at waiting
    exact unknown other (mem_waiting_of_accept waiting)

theorem Distinct.of_fewer {fewer : List Nat} (distinct : loop.Distinct later) (sublist : fewer.Sublist later) :
    loop.Distinct fewer :=
  { distinct with
    once := distinct.once.sublist sublist
    fresh stream member := distinct.fresh stream (sublist.subset member) }

theorem taken_sublist (fewer : (monitorsOf next.watch.items).Sublist (monitorsOf loop.watch.items))
    (unreceived : ∀ stream deadline, next.activity ≠ .receiving stream deadline) :
    next.taken.Sublist loop.taken := by
  have nobody : next.taken = monitorsOf next.watch.items := by
    unfold taken
    split
    · rename_i stream deadline receives
      exact absurd receives (unreceived stream deadline)
    · simp
  rw [nobody]
  exact fewer.trans (List.sublist_append_left _ _)

/-- What a turn does to those who wait to be accepted and to what the loop is in the middle of. -/
inductive Steers (loop : EventLoop) : Deed → EventLoop → Prop
  /-- Nobody is accepted, and the loop is free afterwards or has ended. -/
  | frees (deed : Deed) (next : EventLoop) (nobody : deed.newcomer? = none) (same : next.waiting = loop.waiting)
      (free : next.activity = .idle ∨ ∃ exit, next.activity = .ended exit) : Steers loop deed next
  /-- The connection that has waited longest at some listener is accepted. -/
  | accepts (deed : Deed) (next : EventLoop) (listener stream : Nat) (newcomer : deed.newcomer? = some stream)
      (first : (loop.waiting listener).head? = some stream) (same : next.waiting = (loop.accept listener).waiting)
      (fewer : next.taken.Sublist (loop.taken ++ [stream]))
      (turnsTo : next.activity = .idle ∨
        deed = .commandAccepted stream ∧ ∃ deadline, next.activity = .receiving stream deadline) :
      Steers loop deed next
  /-- A line of a monitor is begun. -/
  | begins (index author : Nat) (kind : Kind) (report : Bool)
      (watched : loop.watch.items[index]? = some ⟨kind, .monitor author, report⟩)
      (something : (loop.streams author).incoming ≠ []) :
      Steers loop (.lineBegun author) { loop with activity := .readingLine index (loop.now + lineTimeout) }

theorem Turns.steers (turns : Turns loop deed next) : loop.Steers deed next := by
  cases turns with
  | ended exit => exact .frees _ _ rfl rfl (.inr ⟨exit, rfl⟩)
  | requested control requests idle | busFailed idle => exact .frees _ _ rfl rfl (.inl idle)
  | burst idle =>
    obtain ⟨-, watch, streams, serviced, -⟩ := loop.serviceBus_frame
    rw [serviced]
    exact .frees _ _ rfl rfl (.inl idle)
  | commandAccepted listener stream idle first =>
    exact .accepts _ _ listener stream rfl first rfl (by simp [taken, idle, accept]) (.inr ⟨rfl, _, rfl⟩)
  | monitorConnects listener stream idle first =>
    rcases (loop.accept listener).addMonitor_eq stream with ⟨watch, added, items, -⟩ | ⟨refused, -⟩
    · rw [added]
      refine .accepts _ _ listener stream rfl first rfl ?_ (.inl idle)
      simp [taken, idle, accept, items, monitorsOf, Endpoint.monitor?]
    · rw [refused]
      refine .accepts _ _ listener stream rfl first rfl ?_ (.inl idle)
      simp [taken, idle, accept, setStream]
  | lineBegun index author kind report idle watched something =>
    exact .begins index author kind report watched something
  | monitorDropped index =>
    obtain ⟨watch, streams, dropped, -⟩ := dropMonitor_frame { loop with activity := .idle } index
    rw [dropped]
    exact .frees _ _ rfl rfl (.inl rfl)
  | line index stream kind report bytes rest watched =>
    obtain ⟨watch, streams, answered, -⟩ :=
      answerLine_frame { loop with activity := .idle } index stream bytes rest _ watched
    rw [answered]
    exact .frees _ _ rfl rfl (.inl rfl)
  | commandServed stream =>
    obtain ⟨streams, served⟩ := serveCommand_frame { loop with activity := .idle } stream
    rw [served]
    exact .frees _ _ rfl rfl (.inl rfl)
  | abandoned => exact .frees _ _ rfl rfl (.inl rfl)

/-- A turn keeps the numbers apart. -/
theorem Distinct.turn (distinct : loop.Distinct later) (turns : Turns loop deed next) : next.Distinct later := by
  have fewer := turns.monitors_sublist distinct
  cases turns.steers with
  | frees _ _ nobody same free =>
    have enters : deed.entered = [] := by
      cases deed with
      | monitorAccepted => cases nobody
      | _ => rfl
    refine distinct.of_sublist (taken_sublist (fewer enters) ?_) same
    rcases free with idle | ⟨exit, ended⟩
    · simp [idle]
    · simp [ended]
  | accepts _ _ listener stream newcomer first same fewer => exact distinct.accept first fewer same
  | begins => exact distinct.of_sublist (taken_sublist (fewer rfl) nofun) rfl

/-- The numbers of the connections that are made, in order. -/
def connections (run : List Happening) : List Nat :=
  run.filterMap fun
    | .connects _ stream => some stream
    | _ => none

theorem connections_append (first second : List Happening) :
    connections (first ++ second) = connections first ++ connections second := List.filterMap_append

theorem mem_waiting_connect {listener stream other waiter : Nat} :
    waiter ∈ (loop.connect listener stream).waiting other ↔
      waiter ∈ loop.waiting other ∨ other = listener ∧ waiter = stream := by
  by_cases same : other = listener
  · simp [connect, same]
  · simp [connect, same]

theorem Distinct.connects {listener stream : Nat} (distinct : loop.Distinct (stream :: later)) :
    (loop.connect listener stream).Distinct later := by
  obtain ⟨newTaken, newWaiting⟩ := distinct.fresh stream List.mem_cons_self
  constructor
  case taken => exact distinct.taken
  case waiting =>
    intro other
    by_cases same : other = listener
    · have longer : (stream :: loop.waiting listener).Nodup :=
        List.nodup_cons.mpr ⟨newWaiting listener, distinct.waiting listener⟩
      simpa [connect, same] using List.nodup_append_comm.mp longer
    · simpa [connect, same] using distinct.waiting other
  case oneListener =>
    intro first second waiter inFirst inSecond
    rcases mem_waiting_connect.mp inFirst with old | ⟨isListener, isStream⟩
    · rcases mem_waiting_connect.mp inSecond with other | ⟨-, isStream⟩
      · exact distinct.oneListener first second waiter old other
      · exact absurd (isStream ▸ old) (newWaiting first)
    · rcases mem_waiting_connect.mp inSecond with old | ⟨alsoListener, -⟩
      · exact absurd (isStream ▸ old) (newWaiting second)
      · rw [isListener, alsoListener]
  case expected =>
    intro other waiter waits
    rcases mem_waiting_connect.mp waits with waits | ⟨-, rfl⟩
    · exact distinct.expected other waiter waits
    · exact newTaken
  case once => exact (List.nodup_cons.mp distinct.once).2
  case fresh =>
    intro newcomer member
    obtain ⟨untaken, unexpected⟩ := distinct.fresh newcomer (List.mem_cons_of_mem _ member)
    refine ⟨untaken, ?_⟩
    intro other waits
    rcases mem_waiting_connect.mp waits with waits | ⟨-, rfl⟩
    · exact unexpected other waits
    · exact (List.nodup_cons.mp distinct.once).1 member

theorem Distinct.happens {happening : Happening} {rest : List Happening}
    (distinct : loop.Distinct (connections (happening :: rest))) :
    (loop.happens happening).Distinct (connections rest) := by
  cases happening with
  | turn =>
    rw [EventLoop.happens]
    cases turned : loop.turn with
    | none => exact distinct
    | some pair => exact distinct.turn (turns_of_turn turned)
  | connects listener stream => exact Distinct.connects distinct
  | _ => exact distinct.of_sublist (List.Sublist.refl _) rfl

theorem Distinct.after {run rest : List Happening} (distinct : loop.Distinct (connections (run ++ rest))) :
    (loop.after run).Distinct (connections rest) := by
  induction run generalizing loop with
  | nil => exact distinct
  | cons happening others ih => exact ih distinct.happens

theorem Distinct.before {run rest : List Happening} (distinct : loop.Distinct (connections (run ++ rest))) :
    loop.Distinct (connections run) := by
  rw [connections_append] at distinct
  exact distinct.of_fewer (List.sublist_append_left _ _)

/-- The connections that were accepted, refused monitors included, in order. -/
def newcomers (deeds : List Deed) : List Nat := deeds.filterMap (·.newcomer?)

/-- The monitors that were entered, in order. -/
def admissions (deeds : List Deed) : List Nat := deeds.flatMap fun deed => monitorsOf deed.entered

theorem mem_admissions {stream : Nat} {deeds : List Deed} :
    stream ∈ admissions deeds ↔ .monitorAccepted stream ∈ deeds := by
  constructor
  · intro admitted
    obtain ⟨deed, done, entered⟩ := List.mem_flatMap.mp admitted
    cases deed with
    | monitorAccepted other =>
      obtain rfl : stream = other := by simpa [Deed.entered, monitorsOf, Endpoint.monitor?] using entered
      exact done
    | _ => simp [Deed.entered, monitorsOf] at entered
  · intro accepted
    exact List.mem_flatMap.mpr ⟨_, accepted, by simp [Deed.entered, monitorsOf, Endpoint.monitor?]⟩

theorem admissions_sublist (deeds : List Deed) : (admissions deeds).Sublist (newcomers deeds) := by
  induction deeds with
  | nil => exact List.Sublist.refl _
  | cons deed rest ih =>
    cases deed with
    | monitorAccepted stream => exact ih.cons_cons stream
    | commandAccepted stream | monitorRefused stream => exact ih.cons stream
    | _ => exact ih

/-- Who waits after a happening waited before or has just connected. -/
theorem waiting_happens {happening : Happening} {rest : List Happening} {listener stream : Nat}
    (waits : stream ∈ (loop.happens happening).waiting listener) :
    (∃ other, stream ∈ loop.waiting other) ∨ stream ∈ connections (happening :: rest) := by
  cases happening with
  | turn =>
    rw [happens] at waits
    cases turned : loop.turn with
    | none => exact .inl ⟨listener, by simpa [turned] using waits⟩
    | some pair =>
      obtain ⟨deed, next⟩ := pair
      have waits : stream ∈ next.waiting listener := by simpa [turned] using waits
      left
      cases (turns_of_turn turned).steers with
      | frees _ _ nobody same => exact ⟨listener, same ▸ waits⟩
      | accepts _ _ accepting newcomer _ _ same => exact ⟨listener, mem_waiting_of_accept (same ▸ waits)⟩
      | begins => exact ⟨listener, waits⟩
  | connects door newcomer =>
    rcases mem_waiting_connect.mp waits with old | ⟨-, rfl⟩
    · exact .inl ⟨listener, old⟩
    · exact .inr List.mem_cons_self
  | _ => exact .inl ⟨listener, waits⟩

theorem newcomer_waited {stream : Nat} (turned : loop.turn = some (deed, next))
    (newcomer : deed.newcomer? = some stream) :
    ∃ listener, (loop.waiting listener).head? = some stream ∧ next.waiting = (loop.accept listener).waiting := by
  cases (turns_of_turn turned).steers with
  | frees _ _ nobody => simp [nobody] at newcomer
  | accepts _ _ listener other somebody first same =>
    obtain rfl : other = stream := by simpa [somebody] using newcomer
    exact ⟨listener, first, same⟩
  | begins => cases newcomer

/-- Only those are accepted that were waiting or connect. -/
theorem waiting_of_newcomers {run : List Happening} {stream : Nat} (member : stream ∈ newcomers (loop.deeds run)) :
    (∃ listener, stream ∈ loop.waiting listener) ∨ stream ∈ connections run := by
  induction run generalizing loop with
  | nil => cases member
  | cons happening rest ih =>
    simp only [newcomers, deeds, List.filterMap_append, List.mem_append] at member
    rcases member with now | later
    · cases happening with
      | turn =>
        obtain ⟨deed, done, newcomer⟩ := List.mem_filterMap.mp now
        obtain ⟨next, turned⟩ : ∃ next, loop.turn = some (deed, next) := by
          simpa [deed?] using done
        obtain ⟨listener, first, -⟩ := newcomer_waited turned newcomer
        exact .inl ⟨listener, List.mem_of_mem_head? first⟩
      | _ => cases now
    · rcases ih later with ⟨listener, waits⟩ | connects
      · exact waiting_happens waits
      · right
        cases happening with
        | connects => exact List.mem_cons_of_mem _ connects
        | _ => exact connects

/-- No connection is accepted twice. -/
theorem newcomers_nodup {run : List Happening} (distinct : loop.Distinct (connections run)) :
    (newcomers (loop.deeds run)).Nodup := by
  induction run generalizing loop with
  | nil => exact List.nodup_nil
  | cons happening rest ih =>
    have later := ih distinct.happens
    simp only [newcomers, deeds, List.filterMap_append] at later ⊢
    cases happening with
    | turn =>
      cases turned : loop.turn with
      | none => simpa [deed?, turned, happens] using later
      | some pair =>
        obtain ⟨deed, next⟩ := pair
        cases newcomer : deed.newcomer? with
        | none => simpa [deed?, turned, newcomer] using later
        | some stream =>
          simp only [deed?, turned, Option.map_some, Option.toList_some, List.filterMap_cons, newcomer,
            List.filterMap_nil, List.singleton_append, List.nodup_cons]
          refine ⟨?_, later⟩
          intro again
          obtain ⟨listener, first, same⟩ := newcomer_waited turned newcomer
          have waits := List.mem_of_mem_head? first
          rcases waiting_of_newcomers again with ⟨other, waitsAgain⟩ | connects
          · have waitsAgain : stream ∈ next.waiting other := by simpa [happens, turned] using waitsAgain
            exact distinct.accepted first other (same ▸ waitsAgain)
          · exact (distinct.fresh stream connects).2 listener waits
    | _ => exact later

/-! ### Along a run -/

@[simp] theorem after_snoc (loop : EventLoop) (run : List Happening) (happening : Happening) :
    loop.after (run ++ [happening]) = (loop.after run).happens happening := by
  simp [after]

@[simp] theorem deeds_snoc (loop : EventLoop) (run : List Happening) (happening : Happening) :
    loop.deeds (run ++ [happening]) = loop.deeds run ++ ((loop.after run).deed? happening).toList := by
  simp [deeds_append, deeds]

/-- The loop did nothing in a happening. -/
structure Idles (loop : EventLoop) (happening : Happening) : Prop where
  noDeed : loop.deed? happening = none
  watch : (loop.happens happening).watch = loop.watch
  activity : (loop.happens happening).activity = loop.activity
  /-- Connections are changed by their clients only. -/
  streams : ∀ stream, (∀ change, happening ≠ .client stream change) →
    (loop.happens happening).streams stream = loop.streams stream

/-- A happening is a turn that the loop takes, or the loop does nothing. -/
theorem happens_cases (loop : EventLoop) (happening : Happening) :
    (∃ deed next, happening = .turn ∧ loop.turn = some (deed, next) ∧ loop.happens happening = next ∧
        loop.deed? happening = some deed) ∨
      loop.Idles happening := by
  cases happening with
  | turn =>
    cases turned : loop.turn with
    | none =>
      have same : loop.happens .turn = loop := by simp [happens, turned]
      exact .inr ⟨by simp [deed?, turned], by rw [same], by rw [same], fun _ _ => by rw [same]⟩
    | some pair => exact .inl ⟨pair.1, pair.2, rfl, rfl, by simp [happens, turned], by simp [deed?, turned]⟩
  | client other change =>
    refine .inr ⟨rfl, rfl, rfl, ?_⟩
    intro stream elsewhere
    have different : stream ≠ other := by
      rintro rfl
      exact elsewhere change rfl
    simp [happens, clientDoes, setStream, different]
  | _ => exact .inr ⟨rfl, rfl, rfl, fun _ _ => rfl⟩

/-- What turns keep about the watch set and the deeds so far, a run keeps. -/
theorem run_keeps {motive : WatchSet Endpoint → List Deed → Prop} {run : List Happening}
    (distinct : loop.Distinct (connections run)) (first : motive loop.watch [])
    (turn : ∀ {loop next : EventLoop} {deed : Deed} {later : List Nat} (deeds : List Deed),
      loop.Distinct later → Turns loop deed next → motive loop.watch deeds → motive next.watch (deeds ++ [deed])) :
    motive (loop.after run).watch (loop.deeds run) := by
  induction run using List.reverseRecOn with
  | nil => exact first
  | append_singleton earlier happening ih =>
    have kept := ih distinct.before
    rw [after_snoc, deeds_snoc]
    rcases (loop.after earlier).happens_cases happening with ⟨deed, next, -, turned, same, done⟩ | idles
    · simpa [same, done] using turn _ distinct.after (turns_of_turn turned) kept
    · simpa [idles.watch, idles.noDeed] using kept

end EventLoop

end NodeBus
