import NodeBus.Proofs.Envelopes
import NodeBus.Proofs.ConnectionsApart

/-!
# Command connections

A command connection is served in one turn, once a whole envelope has come in or no more of it will; before that
and after it the loop leaves the connection alone (`EventLoop.Course`). Its first 2048 bytes decide the response
and what happens to the controller: the request they spell is carried out, and the helper's task makes no
difference to that (`Service.takeUp_answers`). Every response fits an envelope, so none is withheld.
-/
namespace NodeBus

namespace Service

/-- What the bytes of an envelope lead to: the response, and the controller afterwards. -/
inductive Answers (helper : Helper) (controller : Controller) (envelope : List UInt8) :
    Response → Controller → Prop
  /-- They spell a request, and it is carried out. -/
  | executed (request : Request) (opened : Envelope.open? Request.codec envelope = some request) :
      Answers helper controller envelope (execute helper controller request).1
        (execute helper controller request).2
  /-- They spell none, and nothing is touched. -/
  | unknown (opened : Envelope.open? Request.codec envelope = none) :
      Answers helper controller envelope { status := .commandUnknown, body := .empty } controller

/-- Whether a request is carried out at once or by the task of the helper, the answer is the same. -/
theorem takeUp_answers (helper : Helper) (controller : Controller) (envelope : List UInt8) :
    Answers helper controller envelope ((takeUp helper controller envelope).1.response helper)
      (takeUp helper controller envelope).2 := by
  unfold takeUp
  split
  · rename_i command opened
    exact .executed (.helper command) opened
  · rename_i request _ opened
    exact .executed request opened
  · rename_i opened
    exact .unknown opened

theorem serve_of_short (helper : Helper) (controller : Controller) {received : List UInt8}
    (short : received.length < 2048) : serve helper controller received = (none, controller) := by
  unfold serve
  apply if_pos short

/-- Whatever the response is, it is sent. -/
theorem serve_of_whole (helper : Helper) (controller : Controller) {received : List UInt8}
    (whole : 2048 ≤ received.length) :
    ∃ response envelope after, serve helper controller received = (some envelope, after) ∧
      Answers helper controller (received.take 2048) response after ∧
      Envelope.seal? Response.codec response = some envelope ∧ envelope.length = 2048 := by
  have answers := takeUp_answers helper controller (received.take 2048)
  have answered : serve helper controller received =
      (Envelope.seal? Response.codec ((takeUp helper controller (received.take 2048)).1.response helper),
        (takeUp helper controller (received.take 2048)).2) := by
    unfold serve
    apply if_neg (Nat.not_lt.mpr whole)
  obtain ⟨envelope, isSealed, length, -⟩ :=
    Response.roundTrip.sealed ((takeUp helper controller (received.take 2048)).1.response helper)
  rw [isSealed] at answered
  exact ⟨_, envelope, _, answered, answers, isSealed, length⟩

end Service

namespace EventLoop

/-- A whole envelope has come in, or no more of it will. -/
def Complete (loop : EventLoop) (stream deadline : Nat) : Prop :=
  2048 ≤ (loop.streams stream).incoming.length ∨ (loop.streams stream).finished = true ∨
    (loop.streams stream).reset = true ∨ deadline ≤ loop.now

/-- What serving a connection does. -/
structure Served (loop : EventLoop) (stream : Nat) (next : EventLoop) : Prop where
  /-- Without a whole envelope nothing is sent, and the controller and its bus are left alone. -/
  short : (loop.streams stream).incoming.length < 2048 →
    next.controller = loop.controller ∧ (next.streams stream).outgoing = (loop.streams stream).outgoing
  /-- Otherwise the first 2048 bytes are answered, and a client that still listens is sent the response in one
  envelope. -/
  whole : 2048 ≤ (loop.streams stream).incoming.length → ∃ response envelope,
    Service.Answers loop.helper loop.controller ((loop.streams stream).incoming.take 2048) response
      next.controller ∧
    Envelope.seal? Response.codec response = some envelope ∧ envelope.length = 2048 ∧
    Envelope.open? Response.codec envelope = some response ∧
    ((loop.streams stream).reset = false → (loop.streams stream).deaf = false →
      (next.streams stream).outgoing = (loop.streams stream).outgoing ++ envelope)
  /-- Then the connection is closed. -/
  closed : (next.streams stream).closed = true
  /-- The other connections are left alone. -/
  others : ∀ other, other ≠ stream → next.streams other = loop.streams other
  /-- The loop is free for something else. -/
  idle : next.activity = .idle

theorem setStream_other (loop : EventLoop) {stream other : Nat} (value : Stream) (different : other ≠ stream) :
    (loop.setStream stream value).streams other = loop.streams other := if_neg different

theorem serveCommand_short (loop : EventLoop) {stream : Nat}
    (short : (loop.streams stream).incoming.length < 2048) :
    loop.serveCommand stream = loop.setStream stream (loop.streams stream).close := by
  unfold serveCommand
  simp only [Service.serve_of_short loop.helper loop.controller short]

theorem serveCommand_whole (loop : EventLoop) {stream : Nat} {envelope : List UInt8} {after : Controller}
    (serves : Service.serve loop.helper loop.controller (loop.streams stream).incoming = (some envelope, after)) :
    loop.serveCommand stream =
      { loop with controller := after }.setStream stream
        (((loop.streams stream).write? envelope).getD (loop.streams stream)).close := by
  unfold serveCommand
  simp only [serves]

/-- The connection that was served is nothing to the loop any more. -/
theorem apart_serveCommand {loop : EventLoop} {stream : Nat} (unlisted : loop.Unlisted stream) :
    ({ loop with activity := .idle }.serveCommand stream).Apart stream := by
  obtain ⟨streams, served⟩ := serveCommand_frame { loop with activity := .idle } stream
  rw [served]
  exact ⟨⟨unlisted.unwatched, unlisted.unexpected⟩, nofun⟩

theorem served_serveCommand (loop : EventLoop) (stream : Nat) :
    loop.Served stream ({ loop with activity := .idle }.serveCommand stream) := by
  by_cases short : (loop.streams stream).incoming.length < 2048
  · have served := serveCommand_short { loop with activity := .idle } short
    rw [served]
    constructor
    case short => simp [setStream, Stream.close]
    case whole => intro whole; omega
    case closed => simp [setStream, Stream.close]
    case others => exact fun other different => setStream_other _ _ different
    case idle => rfl
  · have whole := Nat.not_lt.mp short
    obtain ⟨response, envelope, after, serves, answers, isSealed, length⟩ :=
      Service.serve_of_whole loop.helper loop.controller whole
    have served := serveCommand_whole { loop with activity := .idle } serves
    rw [served]
    constructor
    case short => intro short; omega
    case whole =>
      intro _
      refine ⟨response, envelope, answers, isSealed, length, Response.roundTrip.opened _ _ isSealed, ?_⟩
      intro connected listening
      simp [setStream, Stream.write?, connected, listening, Stream.close]
    case closed => simp [setStream, Stream.close]
    case others => exact fun other different => setStream_other _ _ different
    case idle => rfl

/-! ### The course of a connection -/

theorem turn_of_complete {loop : EventLoop} {stream deadline : Nat}
    (receives : loop.activity = .receiving stream deadline) (complete : loop.Complete stream deadline) :
    loop.turn = some (.commandServed stream (loop.streams stream).incoming,
      { loop with activity := .idle }.serveCommand stream) := by
  unfold turn
  rw [receives]
  unfold receive
  apply if_pos
  simp only [Bool.or_eq_true, decide_eq_true_eq, or_assoc]
  exact complete

theorem turn_of_incomplete {loop : EventLoop} {stream deadline : Nat}
    (receives : loop.activity = .receiving stream deadline) (incomplete : ¬ loop.Complete stream deadline) :
    loop.turn = none := by
  unfold turn
  rw [receives]
  unfold receive
  apply if_neg
  simp only [Bool.or_eq_true, decide_eq_true_eq, or_assoc]
  exact incomplete

/-- It comes from outside the loop. -/
def Happening.fromOutside : Happening → Bool
  | .turn => false
  | _ => true

/-- The loop only waits for a connection: it does nothing, and the turns it is given change nothing. -/
structure Waits (loop : EventLoop) (stream deadline : Nat) (happenings : List Happening) : Prop where
  noDeed : loop.deeds happenings = []
  untouched : loop.after happenings = loop.after (happenings.filter Happening.fromOutside)
  /-- The connection is what its client makes of it. -/
  delivered : (loop.after happenings).streams stream = clientChanges stream (loop.streams stream) happenings
  receives : (loop.after happenings).activity = .receiving stream deadline
  /-- It is never given a turn when the connection is complete. -/
  incomplete : ∀ before later, happenings = before ++ .turn :: later →
    ¬ (loop.after before).Complete stream deadline

/-- How it goes on with a connection that is being received. The index is what happens from then on. -/
inductive Course (loop : EventLoop) (stream deadline : Nat) : List Happening → Prop
  | waits (happenings : List Happening) (waits : loop.Waits stream deadline happenings) :
      Course loop stream deadline happenings
  /-- The first turn after it became complete serves it. From then on only its client changes it, unless another
  connection goes by the same number. -/
  | served (before later : List Happening) (waits : loop.Waits stream deadline before)
      (complete : (loop.after before).Complete stream deadline)
      (deed : (loop.after before).deed? .turn =
        some (.commandServed stream ((loop.after before).streams stream).incoming))
      (served : (loop.after before).Served stream (loop.after (before ++ [.turn])))
      (left : loop.Unlisted stream → (∀ listener, .connects listener stream ∉ before ++ later) →
        (loop.after (before ++ .turn :: later)).streams stream =
          clientChanges stream ((loop.after (before ++ [.turn])).streams stream) later) :
      Course loop stream deadline (before ++ .turn :: later)

theorem waits_nil {loop : EventLoop} {stream deadline : Nat}
    (receives : loop.activity = .receiving stream deadline) : loop.Waits stream deadline [] where
  noDeed := rfl
  untouched := rfl
  delivered := rfl
  receives
  incomplete before later split := by simp at split

/-- One happening more at the front. If it is a turn, the connection must not be complete. -/
theorem Waits.cons {loop : EventLoop} {stream deadline : Nat} {happening : Happening}
    {happenings : List Happening} (noDeed : loop.deed? happening = none)
    (turn : happening = .turn → loop.happens .turn = loop ∧ ¬ loop.Complete stream deadline)
    (waits : (loop.happens happening).Waits stream deadline happenings) :
    loop.Waits stream deadline (happening :: happenings) := by
  constructor
  case noDeed =>
    rw [deeds, noDeed, waits.noDeed]
    rfl
  case untouched =>
    cases happening with
    | turn =>
      have untouched := waits.untouched
      rw [(turn rfl).1] at untouched
      rw [after, List.foldl_cons, (turn rfl).1]
      exact untouched
    | _ => exact waits.untouched
  case delivered =>
    by_cases isTurn : happening = .turn
    · subst isTurn
      have delivered := waits.delivered
      rw [(turn rfl).1] at delivered
      rw [after, List.foldl_cons, (turn rfl).1]
      exact delivered
    · rw [loop.streams_happens isTurn happenings]
      exact waits.delivered
  case receives => exact waits.receives
  case incomplete =>
    intro before later split
    cases before with
    | nil =>
      obtain ⟨rfl, -⟩ := List.cons.inj split
      exact (turn rfl).2
    | cons first before =>
      obtain ⟨rfl, behind⟩ := List.cons.inj split
      exact waits.incomplete before later behind

theorem Course.cons {loop : EventLoop} {stream deadline : Nat} {happening : Happening}
    {happenings : List Happening} (noDeed : loop.deed? happening = none)
    (turn : happening = .turn → loop.happens .turn = loop ∧ ¬ loop.Complete stream deadline)
    (course : (loop.happens happening).Course stream deadline happenings) :
    loop.Course stream deadline (happening :: happenings) := by
  cases course with
  | waits happenings waits => exact .waits _ (waits.cons noDeed turn)
  | served before later waits complete deed served left =>
    refine .served (happening :: before) later (waits.cons noDeed turn) complete deed served ?_
    intro unlisted unconnected
    apply left
    · by_cases isTurn : happening = .turn
      · subst isTurn
        rw [(turn rfl).1]
        exact unlisted
      · apply unlisted.happens isTurn
        rintro listener rfl
        exact unconnected listener List.mem_cons_self
    · exact fun listener member => unconnected listener (List.mem_cons_of_mem _ member)

/-- The connection that is received comes to its turn. -/
theorem course_of_receiving (loop : EventLoop) (stream deadline : Nat) (happenings : List Happening)
    (receives : loop.activity = .receiving stream deadline) : loop.Course stream deadline happenings := by
  induction happenings generalizing loop with
  | nil => exact .waits [] (waits_nil receives)
  | cons happening rest ih =>
    cases happening with
    | turn =>
      by_cases complete : loop.Complete stream deadline
      · have turned := turn_of_complete receives complete
        have next : loop.after [.turn] = { loop with activity := .idle }.serveCommand stream := by
          simp [after, happens, turned]
        apply Course.served [] rest (waits_nil receives) complete
        case deed => simp [after, deed?, turned]
        case served =>
          rw [List.nil_append, next]
          exact loop.served_serveCommand stream
        case left =>
          intro unlisted unconnected
          have apart : (loop.after [.turn]).Apart stream := by
            rw [next]
            exact apart_serveCommand unlisted
          exact streams_after_apart apart rest unconnected
      · have waiting := turn_of_incomplete receives complete
        have same : loop.happens .turn = loop := by simp [happens, waiting]
        apply Course.cons
        · simp [deed?, waiting]
        · exact fun _ => ⟨same, complete⟩
        · rw [same]
          exact ih loop receives
    | _ =>
      refine Course.cons rfl ?_ (ih _ receives)
      intro isTurn
      cases isTurn

theorem receiving_of_accepted {loop accepted : EventLoop} {stream : Nat}
    (accepts : loop.turn = some (.commandAccepted stream, accepted)) :
    ∃ listener, accepted =
      { loop.accept listener with activity := .receiving stream (loop.now + commandTimeout) } := by
  have turns := turns_of_turn accepts
  generalize taken : Deed.commandAccepted stream = deed at turns
  cases turns with
  | commandAccepted listener other =>
    obtain rfl := Deed.commandAccepted.inj taken
    exact ⟨listener, rfl⟩
  | monitorConnects listener other =>
    unfold addMonitor at taken
    split at taken <;> cases taken
  | _ => cases taken

/-- **Command connections are served** once they are accepted, as `Course` says, and until then nothing is
touched. They have five seconds for their envelope. -/
theorem command_connections_served {loop accepted : EventLoop} {stream : Nat}
    (accepts : loop.turn = some (.commandAccepted stream, accepted)) :
    accepted.controller = loop.controller ∧ accepted.helper = loop.helper ∧ accepted.streams = loop.streams ∧
      ∀ happenings, accepted.Course stream (loop.now + 5000) happenings := by
  obtain ⟨listener, rfl⟩ := receiving_of_accepted accepts
  exact ⟨rfl, rfl, rfl, fun happenings => course_of_receiving _ stream _ happenings rfl⟩

/-! ### A helper that is asked in two pieces -/

/-- The helper succeeds with one command. -/
def pickyHelper : Helper where
  program := some (.executable fun command =>
    { milliseconds := 1, ending := .exited (if command = "on" then 0 else 1) })

/-- A client has connected to the only command listener. -/
def oneClient : EventLoop :=
  (start { settings := {}, bus := {} } pickyHelper [(.inet4Command, .commandListener 0)]).after [.connects 0 1]

/-- The client sends some bytes. -/
def sends (bytes : List UInt8) : Happening :=
  .client 1 fun stream => { stream with incoming := stream.incoming ++ bytes }

/-- The request to run the helper with `no` comes in two pieces, the second with more behind it than fits an
envelope. In between the loop waits. -/
def askedInPieces : List Happening :=
  [sends [0x05, 0x02, 0x6E], .turn, sends (0x6F :: List.replicate 2100 0xFF), .turn]

/-- The response is that the helper failed, without data. -/
theorem helperCommand_served :
    ∃ accepted, oneClient.turn = some (.commandAccepted 1, accepted) ∧ accepted.Unlisted 1 ∧
      accepted.Course 1 5000 askedInPieces ∧
      ((accepted.after (askedInPieces.take 3)).streams 1).outgoing = [] ∧
      ((accepted.after askedInPieces).streams 1).outgoing = 0x0B :: List.replicate 2047 0 := by
  have accepts : oneClient.turn = some (.commandAccepted 1,
      { oneClient.accept 0 with activity := .receiving 1 5000 }) := rfl
  obtain ⟨-, -, -, course⟩ := command_connections_served accepts
  have unlisted : { oneClient.accept 0 with activity := .receiving 1 5000 }.Unlisted 1 := by
    constructor
    case unwatched =>
      unfold WatchSet.Lacks
      decide
    case unexpected =>
      intro listener
      simp only [accept, oneClient, after, List.foldl_cons, List.foldl_nil, happens, connect, start]
      split <;> simp
  exact ⟨_, accepts, unlisted, course askedInPieces, by decide +kernel, by decide +kernel⟩

end EventLoop

end NodeBus
