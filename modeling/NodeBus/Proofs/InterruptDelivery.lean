import Mathlib
import NodeBus.Proofs.ConformingNetwork
import NodeBus.Proofs.LoopTurns

/-!
# Interrupts are delivered

A frame that is next in the queue stays next until the bus is serviced, or a client is served in a way that
awaits an answer; a free loop services the bus in its next turn. Then the frame is collected, its node is
asked for the reason, and the interrupt is announced once to every subscribed monitor
(`interrupts_delivered`).

Only the frame that is next is safe. Nothing sets frames aside while an exchange awaits its answer, so a frame
behind another one, or before the answer to a client's call, is taken for that answer (`crowdedFrames_lost`).
-/
namespace NodeBus

/-- The bytes are next in the queue, and can be heard before a gap ends the burst. -/
def Controller.IsNext (controller : Controller) (frame : List UInt8) : Prop :=
  frame <+: controller.bus.audible controller.settings.timing.interruptGap

instance (controller : Controller) (frame : List UInt8) : Decidable (controller.IsNext frame) :=
  inferInstanceAs (Decidable (_ <+: _))

theorem Controller.Undisturbed.isNext {controller after : Controller} {frame : List UInt8}
    (undisturbed : controller.Undisturbed after) (next : controller.IsNext frame) : after.IsNext frame := by
  rw [IsNext, undisturbed.2]
  exact next.trans (undisturbed.1.audible _)

namespace EventLoop

/-- What arrived is still there when the queue has only grown. -/
theorem busReady_of_grows {bus after : Bus} (grows : bus.Grows after) (ready : busReady bus = true) :
    busReady after = true := by
  obtain ⟨passed, more, queue⟩ := grows
  unfold busReady at ready ⊢
  split at ready
  · cases ready
  · rename_i arrival rest front
    rw [front] at queue
    rw [← queue]
    simp only [List.cons_append, decide_eq_true_eq] at ready ⊢
    omega

/-- What the bytes of a frame come to when the bus is serviced. -/
structure Delivered (loop : EventLoop) (request : InterruptRequest) (frame : List UInt8)
    (result : Option Interrupt) (next : EventLoop) : Prop where
  /-- The frame is collected, and nothing behind it. -/
  collected : ∃ read, bytesOf read = frame ∧
    loop.controller.bus.queue = read ++ (loop.controller.prepared .serviceInterrupt).bus.queue
  /-- Its node is asked for the reason. -/
  asked : loop.controller.transactions .serviceInterrupt =
    (loop.controller.prepared .serviceInterrupt).sendAttempts (interruptQuery request.address)
  raised : result = some (.ofStatus request.address
    ((loop.controller.prepared .serviceInterrupt).send (interruptQuery request.address)).reason)
  /-- Every connection is told once for each of its subscriptions. -/
  announced : ∀ interrupt, result = some interrupt → ∀ stream,
    (next.streams stream).outgoing = (loop.streams stream).told (replyBytes (Monitor.notice interrupt))
      (subscriptions stream loop.watch.items)

theorem burst_of_turn {loop next : EventLoop} {result : Option Interrupt}
    (turned : loop.turn = some (.burst result, next)) :
    result = loop.serviceBus.1 ∧ next = loop.serviceBus.2 := by
  have turns := turns_of_turn turned
  generalize deed : Deed.burst result = done at turns
  cases turns with
  | burst => exact ⟨Deed.burst.inj deed, rfl⟩
  | monitorConnects listener stream =>
    unfold addMonitor at deed
    split at deed <;> cases deed
  | ended | requested | busFailed | commandAccepted | lineBegun | monitorDropped | line | commandServed
  | abandoned => cases deed

/-- A frame that is next is delivered when the bus is serviced. -/
theorem delivered_of_burst {loop next : EventLoop} {result : Option Interrupt}
    (turned : loop.turn = some (.burst result, next)) (request : InterruptRequest) (frame : List UInt8)
    (framed : request.FramedAs frame) (first : loop.controller.IsNext frame) :
    loop.Delivered request frame result next := by
  obtain ⟨rfl, rfl⟩ := burst_of_turn turned
  obtain ⟨same, watch, streams, serviced, -, announced⟩ := loop.serviceBus_frame
  have accepted : loop.controller.accepted .serviceInterrupt = some request :=
    (Controller.collectBurst_eq_some_iff _ _ request).mpr ⟨frame, framed, first⟩
  obtain ⟨wire, rfl, stands⟩ := framed
  obtain ⟨read, split, bytes⟩ := Controller.queue_collectBurst _ _ stands request.length_body_lt first
  rcases loop.controller.serviceInterrupt_cases with ⟨none, -⟩ | ⟨other, some, made, raised⟩
  · rw [none] at accepted
    cases accepted
  · obtain rfl : other = request := Option.some.inj (some.symm.trans accepted)
    refine ⟨⟨read, bytes, split⟩, made, by rw [same, raised], ?_⟩
    intro interrupt result stream
    rw [serviced]
    exact announced interrupt result stream

/-- What becomes of a frame that is next, over a run. -/
inductive Fate (loop : EventLoop) (request : InterruptRequest) (frame : List UInt8)
    (run : List Happening) : Prop
  /-- Nothing has taken from the bus, and the frame is still next. -/
  | waits (leaves : ∀ deed ∈ loop.deeds run, deed.leavesBus = true)
      (next : (loop.after run).controller.IsNext frame)
  /-- The first turn to take from the bus services it, and delivers the frame. -/
  | delivered (before later : List Happening) (result : Option Interrupt) (next : EventLoop)
      (split : run = before ++ .turn :: later)
      (leaves : ∀ deed ∈ loop.deeds before, deed.leavesBus = true)
      (turned : (loop.after before).turn = some (.burst result, next))
      (made : (loop.after before).Delivered request frame result next)
  /-- The first turn to take from the bus serves a client that awaits an answer. -/
  | crowdedOut (before later : List Happening) (deed : Deed) (next : EventLoop)
      (split : run = before ++ .turn :: later)
      (leaves : ∀ deed ∈ loop.deeds before, deed.leavesBus = true)
      (turned : (loop.after before).turn = some (deed, next))
      (awaits : deed.leavesBus = false) (client : ∀ result, deed ≠ .burst result)

/-- The frame stays next up to the turn that takes from the bus. -/
theorem fate_of_isNext (loop : EventLoop) (request : InterruptRequest) (frame : List UInt8)
    (run : List Happening) (framed : request.FramedAs frame) (first : loop.controller.IsNext frame) :
    loop.Fate request frame run := by
  induction run generalizing loop with
  | nil => exact .waits (by simp [deeds]) first
  | cons happening rest ih =>
    by_cases leaves : ∀ deed ∈ loop.deed? happening, deed.leavesBus = true
    · have extended (before : List Happening)
          (later : ∀ deed ∈ (loop.happens happening).deeds before, deed.leavesBus = true) :
          ∀ deed ∈ loop.deeds (happening :: before), deed.leavesBus = true := by
        rw [deeds, List.forall_mem_append]
        exact ⟨by simpa using leaves, later⟩
      cases ih (loop.happens happening) ((loop.undisturbed_happens happening leaves).isNext first) with
      | waits quiet next => exact .waits (extended rest quiet) next
      | delivered before later result next split quiet turned made =>
        exact .delivered (happening :: before) later result next (by rw [split, List.cons_append])
          (extended before quiet) turned made
      | crowdedOut before later deed next split quiet turned awaits client =>
        exact .crowdedOut (happening :: before) later deed next (by rw [split, List.cons_append])
          (extended before quiet) turned awaits client
    · obtain ⟨deed, did, awaits⟩ : ∃ deed, loop.deed? happening = some deed ∧ deed.leavesBus = false := by
        simpa using leaves
      -- only turns do anything
      cases happening with
      | turn =>
        obtain ⟨⟨deed, next⟩, turned, rfl⟩ := Option.map_eq_some_iff.mp did
        cases deed with
        | burst result =>
          exact .delivered [] rest result next rfl (by simp [deeds]) turned
            (delivered_of_burst turned request frame framed first)
        | _ => exact .crowdedOut [] rest _ next rfl (by simp [deeds]) turned awaits (by simp)
      | _ => cases did

/-! ### One frame after another -/

/-- A node asks for attention with a frame, and the loop gets its turn some time later. -/
structure Attention where
  request : InterruptRequest
  frame : Reply
  later : Nat

def Attention.happenings (attention : Attention) : List Happening :=
  [.busDelivers attention.frame, .busWaits attention.later, .turn]

/-- The frame has begun to arrive when the loop gets its turn, and is not broken off. -/
structure Attention.Timely (gap : Nat) (attention : Attention) : Prop where
  framed : attention.request.FramedAs attention.frame.bytes
  faultless : attention.frame.readFails = false
  begun : attention.frame.after ≤ attention.later
  steady : attention.frame.gap ≤ gap

theorem Attention.Timely.callFramed {gap : Nat} {attention : Attention} (timely : attention.Timely gap) :
    (Call.attention attention.frame attention.later).Framed gap := by
  obtain ⟨⟨wire, bytes, stands⟩, faultless, begun, steady⟩ := timely
  have begins : attention.frame.after ≤ attention.later + gap := by omega
  exact ⟨faultless, begins, steady, wire, _, bytes, stands, attention.request.length_body_lt⟩

theorem Attention.Timely.bytes_ne_nil {gap : Nat} {attention : Attention}
    (timely : attention.Timely gap) : attention.frame.bytes ≠ [] := by
  obtain ⟨wire, bytes, -⟩ := timely.framed
  rw [bytes]
  simp

/-- The exchanges in which the reasons are asked for. -/
def reasonQueries : EventLoop → List Attention → List Transaction
  | _, [] => []
  | loop, attention :: rest =>
    (loop.after [.busDelivers attention.frame, .busWaits attention.later]).controller.transactions
        .serviceInterrupt ++
      reasonQueries (loop.after attention.happenings) rest

/-- The interrupt tells the reason that its node gave. -/
def TellsReason (query : Transaction) (interrupt : Interrupt) : Prop :=
  query.packet = interruptQuery interrupt.address ∧ ∃ accepts status, query.Answers accepts status ∧
    interrupt = .ofStatus interrupt.address (if accepts then status.items else [])

/-- Servicing the bus after each frame has raised these interrupts, one for each frame, in order. -/
structure DeliveredInTurn (loop : EventLoop) (attentions : List Attention)
    (interrupts : List Interrupt) : Prop where
  addresses : interrupts.map Interrupt.address = attentions.map (·.request.address)
  reasons : List.Forall₂ TellsReason (loop.reasonQueries attentions) interrupts
  deeds : loop.deeds (attentions.flatMap Attention.happenings) = interrupts.map (.burst <| some ·)
  left : (loop.after (attentions.flatMap Attention.happenings)).controller.bus.queue = []

theorem busReady_deliver (bus : Bus) (frame : Reply) (later : Nat) (nothing : bus.queue = [])
    (something : frame.bytes ≠ []) (begun : frame.after ≤ later) :
    busReady ((bus.deliver frame).pause later) = true := by
  obtain ⟨byte, rest, bytes⟩ := List.exists_cons_of_ne_nil something
  have queue : ((bus.deliver frame).pause later).queue =
      arrivals frame.gap (bus.now + frame.after) 0 frame.items := by
    change (bus.deliver frame).queue = _
    rw [Bus.deliver, nothing]
    rfl
  have items : frame.items = .byte byte :: (rest.map .byte ++ if frame.readFails then [.fault] else []) := by
    rw [Reply.items, bytes]
    rfl
  rw [busReady, queue, items]
  change decide (max (bus.now + frame.after) 0 ≤ bus.now + later) = true
  rw [decide_eq_true_eq]
  omega

/-- One frame on the idle bus is serviced in one turn, which leaves the loop as free as it was. -/
theorem attention_delivered (network : Network) (loop : EventLoop) (attention : Attention)
    (first : loop.watch.BusFirst) (free : loop.Free) (nothing : loop.controller.bus.queue = [])
    (timely : attention.Timely loop.controller.settings.timing.interruptGap)
    (present : attention.request.address ∈ network.nodes)
    (serves : ∀ query ∈ loop.reasonQueries [attention], network.Serves query) :
    ∃ query interrupt, loop.reasonQueries [attention] = [query] ∧
      interrupt.address = attention.request.address ∧ TellsReason query interrupt ∧
      loop.deeds attention.happenings = [.burst (some interrupt)] ∧
      let next := loop.after attention.happenings
      next.watch.BusFirst ∧ next.Free ∧ next.controller.bus.queue = [] ∧
        next.controller.settings = loop.controller.settings := by
  let arrived := loop.after [.busDelivers attention.frame, .busWaits attention.later]
  have queries : loop.reasonQueries [attention] = arrived.controller.transactions .serviceInterrupt :=
    List.append_nil _
  have history : loop.controller.history (Call.attention attention.frame attention.later).steps =
      arrived.controller.transactions .serviceInterrupt := List.append_nil _
  rw [queries, ← history] at serves
  obtain ⟨returns, left⟩ := Network.attention_served attention.frame attention.later nothing
    timely.callFramed serves
  obtain ⟨query, accepts, status, once, packet, answers, result⟩ :=
    returns.1 attention.request timely.framed present
  have ready : busReady arrived.controller.bus = true :=
    busReady_deliver loop.controller.bus attention.frame attention.later nothing timely.bytes_ne_nil
      timely.begun
  have arrivedFree : arrived.Free := ⟨free.idle, free.noRequest, free.portWorks⟩
  have turned : arrived.turn = some (.burst arrived.serviceBus.1, arrived.serviceBus.2) :=
    turn_of_busReady first arrivedFree ready
  obtain ⟨same, watch, streams, serviced, kept, -⟩ := arrived.serviceBus_frame
  have next : loop.after attention.happenings = arrived.serviceBus.2 := by
    change (arrived.turn.map Prod.snd).getD arrived = _
    rw [turned]
    rfl
  refine ⟨query, .ofStatus attention.request.address (if accepts then status.items else []),
    queries.trans once, rfl, ⟨packet, accepts, status, answers, rfl⟩, ?_, ?_⟩
  · change (arrived.turn.map Prod.fst).toList ++ [] = _
    have raised : arrived.controller.serviceInterrupt.1 =
        some (.ofStatus attention.request.address (if accepts then status.items else [])) := result
    rw [turned, same, raised]
    rfl
  · have settings := (arrived.controller.consecutive_transactions .serviceInterrupt).settings_eq
    rw [next, serviced]
    exact ⟨kept first, ⟨free.idle, free.noRequest, free.portWorks⟩, left, settings⟩

/-- Frames that come one at a time on the idle bus raise one interrupt each, in order. -/
theorem attentions_delivered (network : Network) (loop : EventLoop) (attentions : List Attention)
    (first : loop.watch.BusFirst) (free : loop.Free) (nothing : loop.controller.bus.queue = [])
    (asked : ∀ attention ∈ attentions, attention.Timely loop.controller.settings.timing.interruptGap ∧
      attention.request.address ∈ network.nodes)
    (serves : ∀ query ∈ loop.reasonQueries attentions, network.Serves query) :
    ∃ interrupts, loop.DeliveredInTurn attentions interrupts := by
  induction attentions generalizing loop with
  | nil => exact ⟨[], rfl, .nil, rfl, nothing⟩
  | cons attention rest ih =>
    obtain ⟨⟨timely, present⟩, askedLater⟩ := List.forall_mem_cons.mp asked
    have queries : loop.reasonQueries (attention :: rest) =
        loop.reasonQueries [attention] ++ (loop.after attention.happenings).reasonQueries rest := by
      simp only [reasonQueries, List.append_nil]
    rw [queries] at serves
    obtain ⟨servesNow, servesLater⟩ := List.forall_mem_append.mp serves
    obtain ⟨query, interrupt, once, address, tells, deed, firstNext, freeNext, emptied, settings⟩ :=
      attention_delivered network loop attention first free nothing timely present servesNow
    rw [← settings] at askedLater
    obtain ⟨interrupts, others⟩ := ih _ firstNext freeNext emptied askedLater servesLater
    refine ⟨interrupt :: interrupts, ?_⟩
    constructor
    case addresses => rw [List.map_cons, address, others.addresses, List.map_cons]
    case reasons =>
      rw [queries, once]
      exact .cons tells others.reasons
    case deeds =>
      rw [List.flatMap_cons, deeds_append, deed, others.deeds, List.map_cons, List.singleton_append]
    case left =>
      rw [List.flatMap_cons, after_append]
      exact others.left

/-! ### The law -/

/-- What becomes of requests for attention from here on. -/
structure DeliversInterrupts (loop : EventLoop) : Prop where
  /-- A frame that is next stays next until the bus is serviced and the frame is delivered, unless a client
  that awaits an answer is served first. -/
  fate (request : InterruptRequest) (frame : List UInt8) (run : List Happening) :
    request.FramedAs frame → loop.controller.IsNext frame → loop.Fate request frame run
  /-- As soon as the loop is free, the bus is serviced before anything else. -/
  serviced (run : List Happening) : busReady loop.controller.bus = true →
    (∀ deed ∈ loop.deeds run, deed.leavesBus = true) → (loop.after run).Free →
    ∃ result next, (loop.after run).turn = some (.burst result, next)
  /-- No client keeps the loop waiting for longer than its deadline. -/
  goesOn (deadline : Nat) : loop.deadline? = some deadline → deadline ≤ loop.now →
    ∃ deed next, loop.turn = some (deed, next) ∧ next.activity = .idle
  /-- Frames that come one at a time, from nodes that then answer, raise one interrupt each, in order. -/
  oneByOne (network : Network) (attentions : List Attention) :
    loop.Free → loop.controller.bus.queue = [] →
    (∀ attention ∈ attentions, attention.Timely loop.controller.settings.timing.interruptGap ∧
      attention.request.address ∈ network.nodes) →
    (∀ query ∈ loop.reasonQueries attentions, network.Serves query) →
    ∃ interrupts, loop.DeliveredInTurn attentions interrupts

/-- **Interrupts are delivered**, whatever the loop has been through. -/
theorem interrupts_delivered (controller : Controller) (helper : Helper)
    (listeners : List (Kind × Endpoint)) (before : List Happening) :
    ((start controller helper listeners).after before).DeliversInterrupts := by
  have first := busFirst_after _ before (busFirst_start controller helper listeners)
  generalize (start controller helper listeners).after before = loop at first ⊢
  constructor
  case fate => exact loop.fate_of_isNext
  case serviced =>
    intro run ready leaves free
    have still := busReady_of_grows (loop.undisturbed_after run leaves).1 ready
    exact ⟨_, _, turn_of_busReady (loop.busFirst_after run first) free still⟩
  case goesOn => exact fun deadline => turn_of_deadline
  case oneByOne => exact fun network attentions => attentions_delivered network loop attentions first

/-! ### Two nodes and a monitor -/

def neighbours : Network where
  nodes := {0x05, 0x06}
  unicast := by decide

def asking (address : UInt8) : InterruptRequest := { address, variant := .crc8 }

/-- The answers of both nodes to the question for the reason. -/
def reasons : List Reply :=
  [{ bytes := [0x02, 0xC1, 0x05, 0x04, 0x03, 0x11, 0x22, 0x33, 0x1F, 0x03] },
    { bytes := [0x02, 0xC1, 0x06, 0x04, 0x03, 0x11, 0x22, 0x33, 0x51, 0x03] }]

/-- A loop that does not retry. Clients may connect as monitors. -/
def onceOnly (script : List Reply) : EventLoop :=
  start { settings := { retries := 0 }, bus := { script } } {} [(.inet4Text, .monitorListener 0)]

def typed (text : String) : List UInt8 := text.toByteArray.data.toList

/-- A monitor has begun a line when node 05 asks for attention. -/
def askedDuringLine (script : List Reply) (begun : String) : EventLoop :=
  (onceOnly script).after [.connects 0 0, .turn, .client 0 ({ · with incoming := typed begun }), .turn,
    .busDelivers { bytes := (asking 0x05).frame }]

/-- The monitor sends the rest of its line. -/
def lineCompleted (rest : String) : List Happening :=
  [.client 0 fun stream => { stream with incoming := stream.incoming ++ typed rest }, .turn]

def bothInTurn : List Attention :=
  [⟨asking 0x05, { bytes := (asking 0x05).frame }, 0⟩,
    ⟨asking 0x06, { bytes := (asking 0x06).frame, after := 3, gap := 5 }, 20⟩]

/-- A monitor that subscribes hears of the node that asked while its line was read. Two nodes that ask one
after the other are both heard. -/
theorem bothInTurn_delivered :
    ((askedDuringLine reasons "IE").controller.IsNext (asking 0x05).frame ∧
      (askedDuringLine reasons "IE").Fate (asking 0x05) (asking 0x05).frame
        (lineCompleted "\n" ++ [.turn]) ∧
      ((askedDuringLine reasons "IE").after (lineCompleted "\n")).Free ∧
      (∃ result next, ((askedDuringLine reasons "IE").after (lineCompleted "\n")).turn =
        some (.burst result, next)) ∧
      (((askedDuringLine reasons "IE").after (lineCompleted "\n" ++ [.turn])).streams 0).outgoing =
        typed "OK\nEI05112233\n") ∧
    (∀ query ∈ (onceOnly reasons).reasonQueries bothInTurn, neighbours.Serves query) ∧
    ∃ interrupts, (onceOnly reasons).DeliveredInTurn bothInTurn interrupts := by
  constructor
  · have law : (askedDuringLine reasons "IE").DeliversInterrupts := interrupts_delivered _ _ _ _
    have next : (askedDuringLine reasons "IE").controller.IsNext (asking 0x05).frame := by decide +kernel
    have leaves : ∀ deed ∈ (askedDuringLine reasons "IE").deeds (lineCompleted "\n"),
        deed.leavesBus = true := by decide +kernel
    have free : ((askedDuringLine reasons "IE").after (lineCompleted "\n")).Free :=
      ⟨by decide +kernel, by decide +kernel, by decide +kernel⟩
    have fate := law.fate _ _ (lineCompleted "\n" ++ [.turn]) (asking 0x05).framedAs_frame next
    exact ⟨next, fate, free, law.serviced _ (by decide +kernel) leaves free, by decide +kernel⟩
  · have law : (onceOnly reasons).DeliversInterrupts := interrupts_delivered _ _ _ []
    have serves : ∀ query ∈ (onceOnly reasons).reasonQueries bothInTurn, neighbours.Serves query :=
      Network.serves_of_answers _ _ true ⟨[0x11, 0x22, 0x33], by decide⟩ (by decide +kernel)
    have timely : ∀ attention ∈ bothInTurn,
        attention.Timely (onceOnly reasons).controller.settings.timing.interruptGap ∧
          attention.request.address ∈ neighbours.nodes := by
      rw [bothInTurn, List.forall_mem_cons, List.forall_mem_singleton]
      exact ⟨⟨⟨(asking 0x05).framedAs_frame, rfl, by decide, by decide⟩, by decide⟩,
        ⟨⟨(asking 0x06).framedAs_frame, rfl, by decide, by decide⟩, by decide⟩⟩
    have delivered := law.oneByOne neighbours bothInTurn ⟨rfl, ⟨rfl, rfl⟩, rfl⟩ rfl timely serves
    exact ⟨serves, delivered⟩

/-- Both nodes ask at once. -/
def crowded : EventLoop :=
  (onceOnly reasons).after [.busDelivers { bytes := (asking 0x05).frame ++ (asking 0x06).frame }]

/-- A monitor has begun a call of another node, which answers. -/
def calling : EventLoop :=
  askedDuringLine [{ bytes := [0x02, 0xC1, 0x10, 0x07, 0xE9, 0x03] }] "CA10"

/-- Of two frames back to back the second is lost, although every exchange is served: it is taken for the
answer to the question that the first one raises. And a frame that arrives while a monitor's line is read is
lost to the call that the line asks for. -/
theorem crowdedFrames_lost :
    (bytesOf crowded.controller.bus.queue = (asking 0x05).frame ++ (asking 0x06).frame ∧
      (∀ query ∈ crowded.controller.transactions .serviceInterrupt, neighbours.Serves query) ∧
      crowded.deeds [.turn, .turn] =
        [.burst (some { address := 0x05, reason := (0, 0, 0) }), .burst none] ∧
      (crowded.after [.turn, .turn]).controller.bus.queue = []) ∧
    calling.controller.IsNext (asking 0x05).frame ∧
    calling.deeds (lineCompleted "07\n" ++ [.turn]) = [.line 0 (typed "CA1007\n"), .burst none] ∧
    (calling.after (lineCompleted "07\n" ++ [.turn])).controller.bus.queue = [] := by
  refine ⟨⟨by decide +kernel, ?_, by decide +kernel, by decide +kernel⟩, ?_⟩
  · exact Network.serves_of_answers _ _ true ⟨[0x11, 0x22, 0x33], by decide⟩ (by decide +kernel)
  · exact ⟨by decide +kernel, by decide +kernel, by decide +kernel⟩

end EventLoop

end NodeBus
