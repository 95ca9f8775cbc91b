import NodeBus.Proofs.EventSelection

/-!
# Control requests

A loop goes on until it receives a control request or its port fails, and then ends with its next turn
(`Progress`, `progress_after`). Requests it has not received by then stay queued for the next server, in order: over any
number of servers, those received and those left are those sent (`play_account`).
-/
namespace NodeBus

/-- The control request that a deed receives. -/
def Deed.request? : Deed → Option Control
  | .requested control => some control
  | _ => none

/-- The control requests that were received, in order. -/
def received (deeds : List Deed) : List Control := deeds.filterMap (·.request?)

namespace EventLoop

/-! ### The progress of a loop -/

/-- Deeds that leave the loop waiting: each is over in one turn, or was begun and finished with. -/
inductive Handlings : List Deed → Prop
  | nil : Handlings []
  | whole {deeds : List Deed} (deed : Deed) (before : Handlings deeds) (isWhole : deed.isWhole = true) :
      Handlings (deeds ++ [deed])
  | finished {deeds : List Deed} (begun deed : Deed) (before : Handlings deeds) (finishes : begun.Finishes deed) :
      Handlings (deeds ++ [begun] ++ [deed])

/-- How far a loop has come with its deeds. -/
inductive Progress (loop : EventLoop) : List Deed → Prop
  | waits {deeds : List Deed} (before : Handlings deeds) (idle : loop.activity = .idle)
      (fresh : loop.pending = none) : Progress loop deeds
  | amid {deeds : List Deed} (begun : Deed) (before : Handlings deeds) (amid : loop.Amid begun)
      (fresh : loop.pending = none) : Progress loop (deeds ++ [begun])
  /-- The loop has received a request, or its port has failed; it is to end on that. -/
  | stops {deeds : List Deed} (stop : Deed) (exit : Control) (before : Handlings deeds)
      (stops : stop.stops? = some exit) (idle : loop.activity = .idle) (pending : loop.pending = some exit) :
      Progress loop (deeds ++ [stop])
  | ended {deeds : List Deed} (stop : Deed) (exit : Control) (before : Handlings deeds)
      (stops : stop.stops? = some exit) (ended : loop.activity = .ended exit) :
      Progress loop (deeds ++ [stop] ++ [.ended exit])

variable {loop next : EventLoop} {deed : Deed} {deeds : List Deed}

/-- What the loop is to end on comes before everything. -/
theorem turn_of_pending {exit : Control} (idle : loop.activity = .idle) (pending : loop.pending = some exit) :
    loop.turn = some (.ended exit, { loop with pending := none, activity := .ended exit }) := by
  simp only [turn, idle, pending]

theorem turn_of_ended {exit : Control} (ended : loop.activity = .ended exit) : loop.turn = none := by
  simp only [turn, ended]

theorem Progress.turn (progress : loop.Progress deeds) (turned : loop.turn = some (deed, next)) :
    next.Progress (deeds ++ [deed]) := by
  cases progress with
  | waits before idle fresh =>
    obtain ⟨source, selected⟩ := selected_of_turn idle fresh turned
    have pending := selected.pending
    rcases selected.after with amid | ⟨stillIdle, whole⟩
    · have unstopped : deed.stops? = none := by cases amid <;> rfl
      exact .amid deed before amid (pending.trans unstopped)
    · cases stops : deed.stops? with
      | none => exact .waits (.whole deed before (whole.resolve_right (absurd stops))) stillIdle (pending.trans stops)
      | some exit => exact .stops deed exit before stops stillIdle (pending.trans stops)
  | amid begun before amid fresh =>
    have goesOn := amid.goesOn turned
    exact .waits (.finished begun deed before goesOn.finishes) goesOn.idle (goesOn.pending.trans fresh)
  | stops stop exit before stops idle pending =>
    rw [turn_of_pending idle pending] at turned
    obtain ⟨rfl, rfl⟩ := Prod.mk.inj (Option.some.inj turned)
    exact .ended stop exit before stops rfl
  | ended stop exit before stops ended =>
    rw [turn_of_ended ended] at turned
    cases turned

theorem pending_happens {happening : Happening} (noDeed : loop.deed? happening = none) :
    (loop.happens happening).pending = loop.pending := by
  cases happening with
  | turn =>
    have rests : loop.turn = none := by simpa [deed?] using noDeed
    simp [happens, rests]
  | _ => rfl

/-- In what happens around it, the progress of a loop stays as it is. -/
theorem Progress.idles {happening : Happening} (progress : loop.Progress deeds) (idles : loop.Idles happening) :
    (loop.happens happening).Progress deeds := by
  have pending := pending_happens idles.noDeed
  have activity := idles.activity
  cases progress with
  | waits before idle fresh => exact .waits before (activity.trans idle) (pending.trans fresh)
  | amid begun before amid fresh =>
    refine .amid begun before ?_ (pending.trans fresh)
    cases amid with
    | command stream deadline receives => exact .command stream deadline (activity.trans receives)
    | line index stream deadline kind report reads watched =>
      exact .line index stream deadline kind report (activity.trans reads) (by rw [idles.watch, watched])
  | stops stop exit before stops idle pendingExit =>
    exact .stops stop exit before stops (activity.trans idle) (pending.trans pendingExit)
  | ended stop exit before stops ended => exact .ended stop exit before stops (activity.trans ended)

/-- A loop handles one event after another until it is to stop, and then ends. -/
theorem progress_after (idle : loop.activity = .idle) (fresh : loop.pending = none) (run : List Happening) :
    (loop.after run).Progress (loop.deeds run) := by
  induction run using List.reverseRecOn with
  | nil => exact .waits .nil idle fresh
  | append_singleton earlier happening ih =>
    rw [after_snoc, deeds_snoc]
    rcases (loop.after earlier).happens_cases happening with ⟨deed, next, -, turned, same, done⟩ | idles
    · rw [same, done]
      exact ih.turn turned
    · rw [idles.noDeed, Option.toList_none, List.append_nil]
      exact ih.idles idles

/-! ### The queue of requests -/

/-- The control request that is sent in a happening. -/
def Happening.sent? : Happening → Option Control
  | .request control => some control
  | _ => none

/-- The control requests that are sent in a run, in order. -/
def sent (run : List Happening) : List Control := run.filterMap (·.sent?)

/-- Only a deed that receives a request takes one off the queue. -/
theorem Turns.requests_eq (turns : Turns loop deed next) (unasked : deed.request? = none) :
    next.requests = loop.requests := by
  cases turns with
  | ended | busFailed | commandAccepted | lineBegun | abandoned => rfl
  | requested => cases unasked
  | burst =>
    obtain ⟨-, watch, streams, serviced, -⟩ := loop.serviceBus_frame
    rw [serviced]
  | monitorConnects listener stream =>
    obtain ⟨watch, streams, added, -⟩ := (loop.accept listener).addMonitor_frame stream
    rw [added]
    rfl
  | monitorDropped index =>
    obtain ⟨watch, streams, dropped, -⟩ := dropMonitor_frame { loop with activity := .idle } index
    rw [dropped]
  | line index stream kind report bytes rest watched =>
    obtain ⟨watch, streams, answered, -⟩ :=
      answerLine_frame { loop with activity := .idle } index stream bytes rest _ watched
    rw [answered]
  | commandServed stream =>
    obtain ⟨streams, served⟩ := serveCommand_frame { loop with activity := .idle } stream
    rw [served]

theorem Turns.idle_of_requested {control : Control} (turns : Turns loop (.requested control) next) :
    loop.activity = .idle := by
  generalize taken : Deed.requested control = deed at turns
  cases turns with
  | requested _ _ idle => exact idle
  | monitorConnects listener stream idle => exact idle
  | _ => cases taken

/-- A turn receives the oldest request, or none. -/
theorem requests_of_turn (turned : loop.turn = some (deed, next)) :
    loop.requests = deed.request?.toList ++ next.requests := by
  cases asked : deed.request? with
  | none => rw [Option.toList_none, List.nil_append, (turns_of_turn turned).requests_eq asked]
  | some control =>
    obtain rfl : deed = .requested control := by cases deed <;> simp_all [Deed.request?]
    have idle := (turns_of_turn turned).idle_of_requested
    cases pending : loop.pending with
    | some exit =>
      rw [turn_of_pending idle pending] at turned
      cases turned
    | none =>
      obtain ⟨source, selected⟩ := selected_of_turn idle pending turned
      have left := selected.requests
      cases selected.handles with
      | request _ oldest =>
        obtain ⟨rest, queued⟩ := List.head?_eq_some_iff.mp oldest
        simpa [queued] using left.symm

theorem requests_happens (loop : EventLoop) (happening : Happening) :
    loop.requests ++ happening.sent?.toList =
      received (loop.deed? happening).toList ++ (loop.happens happening).requests := by
  cases happening with
  | turn =>
    cases turned : loop.turn with
    | none => simp [happens, deed?, turned, received, Happening.sent?]
    | some result =>
      have taken := requests_of_turn turned
      cases asked : result.1.request? <;>
        simpa [happens, deed?, turned, received, Happening.sent?, asked] using taken
  | request control => rfl
  | _ => exact List.append_nil _

/-- What is sent while a loop runs is queued behind what was queued before. -/
theorem requests_after (loop : EventLoop) (run : List Happening) :
    loop.requests ++ sent run = received (loop.deeds run) ++ (loop.after run).requests := by
  induction run generalizing loop with
  | nil => exact List.append_nil _
  | cons happening rest ih =>
    have now := loop.requests_happens happening
    have later := ih (loop.happens happening)
    calc loop.requests ++ sent (happening :: rest)
        = loop.requests ++ happening.sent?.toList ++ sent rest := by
          cases asked : happening.sent? <;> simp [sent, asked]
      _ = received (loop.deed? happening).toList ++ ((loop.happens happening).requests ++ sent rest) := by
          rw [now, List.append_assoc]
      _ = received (loop.deeds (happening :: rest)) ++ (loop.after (happening :: rest)).requests := by
          rw [later]
          simp [received, deeds, after, List.filterMap_append]

/-! ### One server after another -/

/-- A server that is started, and what happens to it. It begins to wait, and has received no request. -/
structure Round where
  server : EventLoop
  idle : server.activity = .idle
  fresh : server.pending = none
  /-- What is sent before it is started. -/
  early : List Control := []
  run : List Happening

namespace Round

/-- The server when it is started. The requests that were left are still queued. -/
def start (round : Round) (left : List Control) : EventLoop :=
  { round.server with requests := left ++ round.early }

def sent (round : Round) : List Control := round.early ++ EventLoop.sent round.run

end Round

/-- The requests that are received in some rounds, in order, and those that are left in the end. -/
def play (left : List Control) : List Round → List Control × List Control
  | [] => ([], left)
  | round :: rest =>
    let server := round.start left
    let (later, last) := play (server.after round.run).requests rest
    (received (server.deeds round.run) ++ later, last)

/-- No request is lost, none is received twice, and none before an older one. -/
theorem play_account (left : List Control) (rounds : List Round) :
    left ++ rounds.flatMap Round.sent = (play left rounds).1 ++ (play left rounds).2 := by
  induction rounds generalizing left with
  | nil => exact List.append_nil left
  | cons round rest ih =>
    have first := (round.start left).requests_after round.run
    have later := ih ((round.start left).after round.run).requests
    calc left ++ (round :: rest).flatMap Round.sent
        = ((round.start left).requests ++ EventLoop.sent round.run) ++ rest.flatMap Round.sent := by
          simp [Round.sent, Round.start]
      _ = (play left (round :: rest)).1 ++ (play left (round :: rest)).2 := by
          rw [first, List.append_assoc, later]
          simp [play]

/-! ### The law -/

/-- What a loop does in a turn, with whatever is ready at the same time. -/
structure TakesTurns (loop : EventLoop) : Prop where
  /-- A loop that waits takes up exactly one thing that is ready, the foremost. -/
  selects : loop.activity = .idle → loop.pending = none → ∀ deed next, loop.turn = some (deed, next) →
    ∃ source, loop.Selected source deed next
  rests : loop.activity = .idle → loop.pending = none → (loop.turn = none ↔ ∀ source, ¬ loop.Offers source)
  request : loop.requests ≠ [] → ∀ source, loop.Foremost source → source = .control
  bus : loop.requests = [] → loop.watch.BusFirst → busReady loop.controller.bus = true →
    ∀ source, loop.Foremost source → source = .entry 0 .bus
  /-- What was begun is finished with first. -/
  goesOn : ∀ begun, loop.Amid begun → ∀ deed next, loop.turn = some (deed, next) → loop.GoesOn begun deed next
  returns : loop.activity = .idle → ∀ exit, loop.pending = some exit →
    loop.turn = some (.ended exit, { loop with pending := none, activity := .ended exit })
  ended : ∀ exit, loop.activity = .ended exit → loop.turn = none

theorem takesTurns (loop : EventLoop) : loop.TakesTurns where
  selects := fun idle fresh _ _ turned => selected_of_turn idle fresh turned
  rests := turn_eq_none_iff
  request := fun asked _ foremost => foremost.eq_control asked
  bus := fun unasked first ready _ foremost => foremost.eq_bus unasked first ready
  goesOn := fun _ amid _ _ turned => amid.goesOn turned
  returns := fun idle _ pending => turn_of_pending idle pending
  ended := fun _ ended => turn_of_ended ended

/-- How servers that are started one after another deal with what happens to them. -/
structure ServesRounds (left : List Control) (rounds : List Round) : Prop where
  turns : ∀ loop : EventLoop, loop.TakesTurns
  busFirst : ∀ controller helper listeners run, ((start controller helper listeners).after run).watch.BusFirst
  /-- Each server handles events until it is to stop, and then ends, whatever was left for it. -/
  progress : ∀ round ∈ rounds, ∀ queued,
    ((round.start queued).after round.run).Progress ((round.start queued).deeds round.run)
  account : left ++ rounds.flatMap Round.sent = (play left rounds).1 ++ (play left rounds).2

/-- Two requests at once, and a server after the first. -/
example :
    let quiet := EventLoop.start { settings := {}, bus := {} } {} [(.inet4Text, .monitorListener 0)]
    play [] [{ server := quiet, idle := rfl, fresh := rfl,
               run := [.connects 0 7, .request .reload, .request .shutdown, .turn, .turn, .turn] },
             { server := quiet, idle := rfl, fresh := rfl, run := [.turn] }] = ([.reload, .shutdown], []) := by
  decide +kernel

end EventLoop

end NodeBus
