import Mathlib
import NodeBus.Proofs.FrameRoundTrip
import NodeBus.Proofs.InterruptFrames
import NodeBus.Proofs.Retries
import NodeBus.Proofs.Scanning

/-!
# A network that conforms

A network is a set of nodes. It serves an exchange when the port takes the request and the node it is
addressed to, if there is one, answers in time with one frame of its own, whatever status bytes that frame
carries; nobody else says anything (`Network.Serves`).

On such a network every operation returns exactly what the nodes said (`network_exact`). What carries the
proof is that each exchange and each serviced frame leaves nothing in the queue.
-/
namespace NodeBus

/-! ### Nodes that answer -/

namespace Exchange

theorem length_answerBody_le (variant : Variant) (header address command : UInt8)
    (status : Bounded UInt8 maxParams) :
    (answerBody variant header address command status.items).length ≤ Frame.maxBody := by
  have room := status.fits
  have check := variant.length_le_two
  rw [length_answerBody, Frame.maxBody]
  omega

/-- Building the frame of an answer never fails. -/
theorem encode_answer (variant : Variant) (header address command : UInt8)
    (status : Bounded UInt8 maxParams) :
    (Frame.appendCheck? variant (header :: address :: command :: status.items)).bind Frame.encode? =
      some (Escape.stx :: Escape.escaped (answerBody variant header address command status.items) ++
        [Escape.etx]) := by
  have fits := length_answerBody_le variant header address command status
  have room := fits
  rw [answerBody, List.length_append] at room
  rw [Frame.appendCheck?, if_pos room]
  exact Frame.encode?_of_fits _ fits

end Exchange

namespace Transaction
open Exchange

/-- The header of an answer to the request. -/
def answerHeader (transaction : Transaction) (accepts : Bool) : Header :=
  if accepts then .ack transaction.variant else .nak transaction.variant

/-- The reply is one answer frame to the request, in its variant: an acknowledgement or a refusal with
its address and command and some status bytes. -/
def Answers (transaction : Transaction) (accepts : Bool) (status : Bounded UInt8 maxParams) : Prop :=
  (Frame.appendCheck? transaction.variant ((transaction.answerHeader accepts).toByte ::
    transaction.packet.address :: transaction.packet.command :: status.items)).bind Frame.encode? =
      some transaction.reply.bytes

instance (transaction : Transaction) (accepts : Bool) (status : Bounded UInt8 maxParams) :
    Decidable (transaction.Answers accepts status) :=
  inferInstanceAs (Decidable (_ = _))

variable {transaction : Transaction} {accepts : Bool} {status : Bounded UInt8 maxParams}

/-- Such a reply completes the body of an answer, and is taken to its end. -/
theorem completes_of_answers (answers : transaction.Answers accepts status) :
    Completes transaction.reply.bytes (answerBody transaction.variant
      (transaction.answerHeader accepts).toByte transaction.packet.address transaction.packet.command
      status.items) ∧
    (Deframer.run {} transaction.reply.bytes).taken = transaction.reply.bytes.length := by
  have fits := length_answerBody_le transaction.variant (transaction.answerHeader accepts).toByte
    transaction.packet.address transaction.packet.command status
  rw [Answers, encode_answer] at answers
  rw [← Option.some.inj answers, Completes, Deframer.run_frame _ fits]
  exact ⟨⟨rfl, rfl⟩, rfl⟩

end Transaction

/-- The nodes on a bus. Nobody answers for everyone. -/
structure Network where
  nodes : Finset UInt8
  unicast : broadcastAddress ∉ nodes

namespace Network

/-- The port takes the request, its node answers in time with one frame, and nobody else says anything. -/
structure Serves (network : Network) (transaction : Transaction) : Prop where
  taken : transaction.controller.Takes
  prompt : transaction.Prompt
  answers : transaction.packet.address ∈ network.nodes →
    ∃ accepts status, transaction.Answers accepts status
  silent : transaction.packet.address ∉ network.nodes → transaction.reply.bytes = []

variable {network : Network} {transaction : Transaction}

theorem isBroadcast_of_mem (present : transaction.packet.address ∈ network.nodes) :
    transaction.packet.isBroadcast = false := by
  rw [Packet.isBroadcast, beq_eq_false_iff_ne]
  intro everyone
  rw [everyone] at present
  exact network.unicast present

/-- A served exchange leaves nothing in the queue. -/
theorem Serves.queue_nil (serves : network.Serves transaction)
    (nothing : transaction.controller.bus.queue = []) : transaction.sent.controller.bus.queue = [] := by
  by_cases present : transaction.packet.address ∈ network.nodes
  · obtain ⟨accepts, status, answers⟩ := serves.answers present
    refine transaction.sent_queue_nil_of_prompt nothing serves.prompt
      (Transaction.completes_of_answers answers).2 fun everyone => ?_
    rw [isBroadcast_of_mem present] at everyone
    cases everyone
  · have silent := serves.silent present
    refine transaction.sent_queue_nil_of_prompt nothing serves.prompt ?_ fun _ => silent
    rw [silent]
    rfl

section Outcomes

variable (serves : network.Serves transaction) (nothing : transaction.controller.bus.queue = [])
include serves nothing

/-- A node of the network is understood. -/
theorem Serves.sent_of_answers (present : transaction.packet.address ∈ network.nodes) {accepts : Bool}
    {status : Bounded UInt8 maxParams} (answers : transaction.Answers accepts status) :
    (transaction.sent.outcome, transaction.sent.packet) =
      if accepts then (.ok (), { transaction.packet with status })
      else (.error .nak, transaction.packet) := by
  have heard := (transaction.heard_eq_reply nothing serves.prompt serves.taken).2
  have complete := (Transaction.completes_of_answers answers).1
  rw [← heard] at complete
  have ended := Controller.exchange_ending_iff transaction.controller transaction.packet transaction.budget
  cases accepts with
  | true =>
    obtain ⟨outcome, after⟩ := (ended _ _).mp
      (.accepted serves.taken (isBroadcast_of_mem present) _ _ status complete)
    exact Prod.ext outcome after
  | false =>
    obtain ⟨outcome, after⟩ := (ended _ _).mp
      (.refusal serves.taken (isBroadcast_of_mem present) _ _ status.items complete)
    exact Prod.ext outcome after

/-- Nobody answers for a node that is absent. -/
theorem Serves.sent_of_absent (absent : transaction.packet.address ∉ network.nodes)
    (unicast : transaction.packet.isBroadcast = false) :
    transaction.sent.outcome = .error .rxTimeout ∧ transaction.sent.packet = transaction.packet := by
  have heard := (transaction.heard_eq_reply nothing serves.prompt serves.taken).2
  rw [serves.silent absent] at heard
  exact (Controller.exchange_ending_iff _ _ _ _ _).mp (.silent serves.taken unicast heard)

omit nothing in
theorem Serves.sent_of_broadcast (everyone : transaction.packet.isBroadcast = true) :
    transaction.sent.outcome = .ok () ∧ transaction.sent.packet = transaction.packet :=
  (Controller.exchange_ending_iff _ _ _ _ _).mp (.broadcast serves.taken everyone)

/-- An exchange with one node succeeds exactly when the node is there and accepts. -/
theorem Serves.ok_iff (unicast : transaction.packet.isBroadcast = false) :
    transaction.sent.outcome = .ok () ↔
      transaction.packet.address ∈ network.nodes ∧ ∃ status, transaction.Answers true status := by
  constructor
  · intro success
    by_cases present : transaction.packet.address ∈ network.nodes
    · obtain ⟨accepts, status, answers⟩ := serves.answers present
      have understood := serves.sent_of_answers nothing present answers
      cases accepts with
      | true => exact ⟨present, status, answers⟩
      | false =>
        rw [success] at understood
        simp at understood
    · rw [(serves.sent_of_absent nothing present unicast).1] at success
      cases success
  · rintro ⟨present, status, answers⟩
    exact congrArg Prod.fst (serves.sent_of_answers nothing present answers)

end Outcomes

end Network

/-! ### Operations on a network that serves -/

/-- Exchanges that each leave an empty queue empty find it empty throughout. -/
theorem Consecutive.queue_nil {before after : Controller} {transactions : List Transaction}
    (consecutive : Consecutive before transactions after) (nothing : before.bus.queue = [])
    (leave : ∀ transaction ∈ transactions, transaction.controller.bus.queue = [] →
      transaction.sent.controller.bus.queue = []) :
    (∀ transaction ∈ transactions, transaction.controller.bus.queue = []) ∧ after.bus.queue = [] := by
  induction transactions generalizing before with
  | nil =>
    have same : before.bus = after.bus := consecutive.1
    exact ⟨by simp, by rw [← same, nothing]⟩
  | cons transaction rest ih =>
    obtain ⟨first, others⟩ := List.forall_mem_cons.mp leave
    have found : transaction.controller.bus.queue = [] := by rw [← consecutive.1.1, nothing]
    obtain ⟨during, left⟩ := ih consecutive.2 (first found) others
    exact ⟨List.forall_mem_cons.mpr ⟨found, during⟩, left⟩

namespace Network

variable {network : Network} {controller : Controller} {packet : Packet}

section Sending

variable (nothing : controller.bus.queue = [])
  (serves : ∀ transaction ∈ controller.sendAttempts packet, network.Serves transaction)
include nothing serves

theorem send_queue_nil :
    (∀ attempt ∈ controller.sendAttempts packet, attempt.controller.bus.queue = []) ∧
      (controller.send packet).controller.bus.queue = [] :=
  (Controller.consecutive_attempts _ controller packet).queue_nil nothing
    fun attempt made => (serves attempt made).queue_nil

omit nothing in
theorem serves_first : network.Serves (controller.firstTransaction packet) := by
  obtain ⟨earlier, last, made, run⟩ := Controller.persists controller.settings.retries.toNat controller packet
  refine serves _ (List.mem_of_mem_head? ?_)
  rw [Controller.sendAttempts, made]
  exact run.head_eq

/-- A node that is there is asked once, and what it says is handed back. -/
theorem send_present (present : packet.address ∈ network.nodes) :
    controller.sendAttempts packet = [controller.firstTransaction packet] ∧
      ∃ accepts status, (controller.firstTransaction packet).Answers accepts status ∧
        ((controller.send packet).outcome, (controller.send packet).packet) =
          if accepts then (.ok (), { packet with status }) else (.error .nak, packet) := by
  have first := serves_first serves
  obtain ⟨accepts, status, answers⟩ := first.answers present
  have understood := first.sent_of_answers nothing present answers
  have final : ¬ (controller.firstTransaction packet).WorthRepeating := by
    have outcome := congrArg Prod.fst understood
    dsimp only at outcome
    rw [Transaction.WorthRepeating, outcome]
    cases accepts <;> simp
  obtain ⟨once, result⟩ := controller.send_of_final packet final
  refine ⟨once, accepts, status, answers, ?_⟩
  rw [result]
  exact understood

/-- A node that is not there is asked until the retries are used up. -/
theorem send_absent (absent : packet.address ∉ network.nodes) (unicast : packet.isBroadcast = false) :
    (controller.sendAttempts packet).length = controller.settings.retries.toNat + 1 ∧
      (controller.send packet).outcome = .error .rxTimeout := by
  obtain ⟨earlier, last, made, run⟩ := Controller.persists controller.settings.retries.toNat controller packet
  have member : last ∈ controller.sendAttempts packet := by
    rw [Controller.sendAttempts, made]
    simp
  have address : last.packet.address = packet.address :=
    (congrArg Packet.address (Controller.attempts_packet _ _ _ last member) :)
  have silent : last.sent.outcome = .error .rxTimeout := by
    refine ((serves last member).sent_of_absent ((send_queue_nil nothing serves).1 last member) ?_ ?_).1
    · rwa [address]
    · rwa [Packet.isBroadcast, address]
  have worth : last.WorthRepeating := by
    rw [Transaction.WorthRepeating, silent]
    simp
  constructor
  · rw [Controller.sendAttempts, made, List.length_append, run.exhausted worth, List.length_singleton]
  · exact run.result_eq.1.trans silent

omit nothing in
theorem send_broadcast (everyone : packet.isBroadcast = true) :
    controller.sendAttempts packet = [controller.firstTransaction packet] ∧
      (controller.send packet).outcome = .ok () ∧ (controller.send packet).packet = packet := by
  have ended := (serves_first serves).sent_of_broadcast everyone
  have final : ¬ (controller.firstTransaction packet).WorthRepeating := by
    rw [Transaction.WorthRepeating, ended.1]
    simp
  obtain ⟨once, result⟩ := controller.send_of_final packet final
  refine ⟨once, ?_⟩
  rw [result]
  exact ended

end Sending

/-- The query finds a node: it is there, accepts, and tells what it is. -/
def Finds (network : Network) (query : Transaction) (node : NodeInfo) : Prop :=
  ∃ status, query.packet.address ∈ network.nodes ∧ query.Answers true status ∧
    node = .ofStatus query.packet.address status.items

theorem Serves.finds_iff {query : Transaction} (serves : network.Serves query)
    (nothing : query.controller.bus.queue = []) (unicast : query.packet.isBroadcast = false)
    (node : NodeInfo) :
    network.Finds query node ↔ query.sent.outcome = .ok () ∧
      node = .ofStatus query.packet.address query.sent.packet.status.items := by
  constructor
  · rintro ⟨status, present, answers, rfl⟩
    have understood := serves.sent_of_answers nothing present answers
    obtain ⟨outcome, after⟩ := Prod.mk.inj understood
    exact ⟨outcome, by rw [after]⟩
  · rintro ⟨success, rfl⟩
    obtain ⟨present, status, answers⟩ := (serves.ok_iff nothing unicast).mp success
    have after : query.sent.packet = { query.packet with status } :=
      congrArg Prod.snd (serves.sent_of_answers nothing present answers)
    exact ⟨status, present, answers, by rw [after]⟩

/-- What a scan of some addresses returns, when they are not more than the list has room for. -/
theorem scanOver_served (found : NodeList) (addresses : List UInt8) (nothing : controller.bus.queue = [])
    (serves : ∀ query ∈ controller.scanQueries found addresses, network.Serves query)
    (unicast : ∀ address ∈ addresses, (identifyQuery address).isBroadcast = false)
    (room : found.items.length + addresses.length ≤ maxScan) :
    (controller.scanOver found addresses).1 = .ok () ∧
      (controller.scanQueries found addresses).map Transaction.packet = addresses.map identifyQuery ∧
      ∃ listed, (controller.scanOver found addresses).2.1.items = found.items ++ listed ∧
        (listed.map NodeInfo.address).Sublist addresses ∧
        ∀ node, node ∈ listed ↔
          ∃ query ∈ controller.scanQueries found addresses, network.Finds query node := by
  obtain ⟨sweep, listed⟩ := Controller.sweeps_scanOver controller found addresses room
  obtain ⟨during, -⟩ := (controller.consecutive_scanQueries found addresses).queue_nil nothing
    fun query made => (serves query made).queue_nil
  rcases sweep.ended with ⟨ok, length, -⟩ | ⟨-, earlier, last, split, -, untaken⟩
  case inr => exact absurd (serves last (by simp [split])).taken untaken
  have packets := sweep.packets
  rw [length, List.take_length] at packets
  refine ⟨ok, packets, _, listed, ?_, fun node => ?_⟩
  · have ordered := addresses_findings (controller.scanQueries found addresses)
    have visited : (controller.scanQueries found addresses).map (fun query => query.packet.address) =
        (addresses.map identifyQuery).map Packet.address := by
      rw [← packets, List.map_map]
      rfl
    have asked : (addresses.map identifyQuery).map Packet.address = addresses := by
      rw [List.map_map]
      exact List.map_id addresses
    rwa [visited, asked] at ordered
  · rw [List.mem_filterMap]
    refine exists_congr fun query => and_congr_right fun made => ?_
    have asked : query.packet ∈ addresses.map identifyQuery := packets ▸ List.mem_map_of_mem made
    obtain ⟨address, member, same⟩ := List.mem_map.mp asked
    rw [query.finding?_eq_some_iff,
      (serves query made).finds_iff (during query made) (same ▸ unicast address member)]

end Network

/-! ### Calls -/

/-- What is asked of the controller, and what happens on the bus in between. Attention is asked for by one
frame on the idle bus, and serviced some time later. -/
inductive Call where
  | send (packet : Packet)
  | scan
  | enumerate
  | attention (frame : Reply) (later : Nat)
  | wait (milliseconds : Nat)
  | expect (replies : List Reply)

/-- The steps that a call comes to. -/
def Call.steps : Call → List Controller.Step
  | .send packet => [.operate (.send packet)]
  | .scan => [.operate .scan]
  | .enumerate => [.operate .enumerate]
  | .attention frame later => [.arrive frame, .wait later, .operate .serviceInterrupt]
  | .wait milliseconds => [.wait milliseconds]
  | .expect replies => [.expect replies]

/-- The bytes stand between markers, with a body that a burst has room for. -/
def SingleFrame (bytes : List UInt8) : Prop :=
  ∃ wire body, bytes = Escape.stx :: wire ++ [Escape.etx] ∧ Escape.Unescapes wire body ∧
    body.length < maxBurst

/-- Whoever asks for attention sends one frame, and it can be heard when it is serviced. -/
def Call.Framed (gap : Nat) : Call → Prop
  | .attention frame later =>
    frame.readFails = false ∧ frame.after ≤ later + gap ∧ frame.gap ≤ gap ∧ SingleFrame frame.bytes
  | _ => True

namespace Network

variable {network : Network} {controller : Controller}

/-- The network serves every exchange of some calls. -/
def Conforms (network : Network) : Controller → List Call → Prop
  | _, [] => True
  | controller, call :: rest =>
    call.Framed controller.settings.timing.interruptGap ∧
      (∀ transaction ∈ controller.history call.steps, network.Serves transaction) ∧
      Conforms network (controller.after call.steps) rest

/-- What a call returns. -/
def Returns (network : Network) (controller : Controller) : Call → Prop
  | .send packet =>
    let first := controller.firstTransaction packet
    let sent := controller.send packet
    (packet.address ∈ network.nodes →
      controller.sendAttempts packet = [first] ∧ ∃ accepts status, first.Answers accepts status ∧
        (sent.outcome, sent.packet) =
          if accepts then (.ok (), { packet with status }) else (.error .nak, packet)) ∧
    (packet.address ∉ network.nodes → packet.isBroadcast = false →
      (controller.sendAttempts packet).length = controller.settings.retries.toNat + 1 ∧
        sent.outcome = .error .rxTimeout) ∧
    (packet.isBroadcast = true →
      controller.sendAttempts packet = [first] ∧ sent.outcome = .ok () ∧ sent.packet = packet)
  | .scan =>
    let queries := controller.transactions .scan
    let last := min controller.settings.maxNodeAddress.toNat 254
    controller.scan.1 = .ok () ∧
      queries.map Transaction.packet = (List.range (last + 1)).map (identifyQuery <| .ofNat ·) ∧
      (controller.scan.2.1.items.map NodeInfo.address).Sublist ((List.range (last + 1)).map .ofNat) ∧
      ∀ node, node ∈ controller.scan.2.1.items ↔ ∃ query ∈ queries, network.Finds query node
  | .enumerate => controller.enumerate.outcome = .ok ()
  | .attention frame later =>
    let heard := controller.after [.arrive frame, .wait later]
    (∀ request : InterruptRequest, request.FramedAs frame.bytes → request.address ∈ network.nodes →
      ∃ query accepts status, heard.transactions .serviceInterrupt = [query] ∧
        query.packet = interruptQuery request.address ∧ query.Answers accepts status ∧
        heard.serviceInterrupt.1 =
          some (.ofStatus request.address (if accepts then status.items else []))) ∧
    (∀ request : InterruptRequest, request.FramedAs frame.bytes → request.address ∉ network.nodes →
      heard.serviceInterrupt.1 = some (.ofStatus request.address [])) ∧
    ((∀ request : InterruptRequest, ¬ request.FramedAs frame.bytes) → heard.serviceInterrupt.1 = none)
  | .wait _ | .expect _ => True

/-- Every call returns what it should and leaves the queue empty. -/
def Exact (network : Network) : Controller → List Call → Prop
  | _, [] => True
  | controller, call :: rest =>
    network.Returns controller call ∧ (controller.after call.steps).bus.queue = [] ∧
      Exact network (controller.after call.steps) rest

/-- An operation whose exchanges are served leaves the queue empty, if it begins them with an empty one. -/
theorem perform_queue_nil (operation : Controller.Operation)
    (nothing : (controller.prepared operation).bus.queue = [])
    (serves : ∀ transaction ∈ controller.transactions operation, network.Serves transaction) :
    (controller.perform operation).bus.queue = [] :=
  ((controller.consecutive_transactions operation).queue_nil nothing
    fun transaction made => (serves transaction made).queue_nil).2

/-- The reason that comes back for a request, from a node that is there or from nobody. -/
theorem reason_served (address : UInt8) (nothing : controller.bus.queue = [])
    (serves : ∀ transaction ∈ controller.sendAttempts (interruptQuery address),
      network.Serves transaction) :
    let query := controller.firstTransaction (interruptQuery address)
    (address ∈ network.nodes →
      ∃ accepts status, controller.sendAttempts (interruptQuery address) = [query] ∧
        query.Answers accepts status ∧
        (controller.send (interruptQuery address)).reason = if accepts then status.items else []) ∧
    (address ∉ network.nodes → (controller.send (interruptQuery address)).reason = []) := by
  intro query
  constructor
  · intro present
    obtain ⟨once, accepts, status, answers, result⟩ := send_present nothing serves present
    obtain ⟨outcome, after⟩ := Prod.ext_iff.mp result
    refine ⟨accepts, status, once, answers, ?_⟩
    cases accepts with
    | true =>
      dsimp only [if_true] at outcome after
      rw [Sent.reason, outcome, after]
      rfl
    | false =>
      dsimp only at outcome
      rw [Sent.reason, outcome]
      rfl
  · intro absent
    cases cast : (interruptQuery address).isBroadcast with
    | true =>
      obtain ⟨-, outcome, after⟩ := send_broadcast serves cast
      rw [Sent.reason, outcome, after]
      rfl
    | false =>
      rw [Sent.reason, (send_absent nothing serves absent cast).2]

/-- A single frame on the idle bus is collected whole, and is accepted for what it is. -/
theorem attention_collected (frame : Reply) (later : Nat) (nothing : controller.bus.queue = [])
    (framed : (Call.attention frame later).Framed controller.settings.timing.interruptGap) :
    let heard := controller.after [.arrive frame, .wait later]
    (heard.prepared .serviceInterrupt).bus.queue = [] ∧
      ∀ request, heard.accepted .serviceInterrupt = some request ↔ request.FramedAs frame.bytes := by
  intro heard
  obtain ⟨faultless, inTime, steady, wire, body, whole, stands, short⟩ := framed
  obtain ⟨audible, length⟩ := controller.bus.audible_deliver frame later _ nothing faultless inTime steady
  have first : Escape.stx :: wire ++ [Escape.etx] <+: heard.bus.audible heard.settings.timing.interruptGap := by
    rw [← whole, ← audible]
    exact List.prefix_rfl
  obtain ⟨read, split, bytes⟩ := Controller.queue_collectBurst heard.bus _ stands short first
  refine ⟨nil_of_all_read split (by rw [bytes, ← whole]; exact length), fun request => ?_⟩
  constructor
  · intro some
    rw [Controller.accepted, Controller.collectBurst_frame _ _ stands short first,
      Burst.request?_eq_some_iff] at some
    obtain rfl : body = request.body := some
    exact ⟨wire, whole, stands⟩
  · intro framed
    rw [← whole] at first
    exact (Controller.collectBurst_eq_some_iff _ _ request).mpr ⟨frame.bytes, framed, first⟩

theorem attention_served (frame : Reply) (later : Nat) (nothing : controller.bus.queue = [])
    (framed : (Call.attention frame later).Framed controller.settings.timing.interruptGap)
    (serves : ∀ transaction ∈ controller.history (Call.attention frame later).steps,
      network.Serves transaction) :
    network.Returns controller (.attention frame later) ∧
      (controller.after (Call.attention frame later).steps).bus.queue = [] := by
  let heard := controller.after [.arrive frame, .wait later]
  have history : controller.history (Call.attention frame later).steps =
      heard.transactions .serviceInterrupt := List.append_nil _
  rw [history] at serves
  obtain ⟨taken, accepted⟩ := attention_collected frame later nothing framed
  refine ⟨?_, perform_queue_nil .serviceInterrupt taken serves⟩
  rcases heard.serviceInterrupt_cases with ⟨none, -, result⟩ | ⟨request, some, made, result⟩
  · have notFramed (request : InterruptRequest) : ¬ request.FramedAs frame.bytes := by
      rw [← accepted, none]
      simp
    refine ⟨fun request framed => absurd framed (notFramed request),
      fun request framed => absurd framed (notFramed request), fun _ => ?_⟩
    rw [result]
  · have only (other : InterruptRequest) (framed : other.FramedAs frame.bytes) : other = request :=
      Option.some.inj (((accepted other).mpr framed).symm.trans some)
    rw [made] at serves
    obtain ⟨present, absent⟩ := reason_served request.address taken serves
    refine ⟨fun other framed member => ?_, fun other framed nobody => ?_, fun noFrame => ?_⟩
    · obtain rfl := only other framed
      obtain ⟨accepts, status, once, answers, reason⟩ := present member
      exact ⟨_, accepts, status, made.trans once, rfl, answers, by rw [result, reason]⟩
    · obtain rfl := only other framed
      rw [result, absent nobody]
    · exact absurd ((accepted request).mp some) (noFrame request)

/-- What one call returns and leaves behind. -/
theorem call_served (call : Call) (nothing : controller.bus.queue = [])
    (framed : call.Framed controller.settings.timing.interruptGap)
    (serves : ∀ transaction ∈ controller.history call.steps, network.Serves transaction) :
    network.Returns controller call ∧ (controller.after call.steps).bus.queue = [] := by
  have history (operation : Controller.Operation) :
      controller.history [.operate operation] = controller.transactions operation := by
    simp [Controller.history, Controller.operations]
  cases call with
  | wait | expect => exact ⟨trivial, nothing⟩
  | attention frame later => exact attention_served frame later nothing framed serves
  | send packet =>
    rw [Call.steps, history] at serves
    exact ⟨⟨send_present nothing serves, send_absent nothing serves, send_broadcast serves⟩,
      perform_queue_nil (.send packet) nothing serves⟩
  | enumerate =>
    rw [Call.steps, history] at serves
    have asked := (List.forall_mem_singleton.mp serves).sent_of_broadcast rfl
    exact ⟨asked.1, perform_queue_nil .enumerate nothing serves⟩
  | scan =>
    rw [Call.steps, history] at serves
    have addresses := Controller.scanAddresses_eq controller.settings
    have room : (.empty : NodeList).items.length +
        (Controller.scanAddresses controller.settings).length ≤ maxScan := by
      rw [addresses, List.length_map, List.length_range, maxScan, Bounded.empty, List.length_nil]
      omega
    obtain ⟨ok, packets, listed, all, ordered, exactly⟩ := scanOver_served .empty _ nothing serves
      (Controller.scanAddresses_unicast controller.settings) room
    have items : controller.scan.2.1.items = listed := all
    refine ⟨⟨ok, ?_, ?_, ?_⟩, perform_queue_nil .scan nothing serves⟩
    · change (controller.scanQueries .empty _).map Transaction.packet = _
      rw [packets, addresses, List.map_map]
      rfl
    · rwa [items, ← addresses]
    · rwa [items]

/-- Two nodes, one of which is known to interrupt. -/
def pair : Network where
  nodes := {0x01, 0x10}
  unicast := by decide

/-- What they answer, in order. -/
def pairController : Controller where
  settings := { retries := 1, maxNodeAddress := 0x01 }
  bus :=
    { script := [{ bytes := [0x02, 0xC1, 0x10, 0x07, 0x04, 0x02, 0x04, 0x03, 0xDE, 0x03], after := 250, gap := 200 },
        {}, {}, { bytes := [0x02, 0xC5, 0x10, 0x04, 0x03, 0x11, 0xC1, 0x1B, 0x03] },
        {}, { bytes := [0x02, 0xC1, 0x04, 0x01, 0x04, 0x00, 0x34, 0x12, 0x57, 0x03] },
        {}, { bytes := [0x02, 0x81, 0x04, 0x01, 0x07, 0x8E, 0x03] }] }

def pairCalls : List Call :=
  [.send { address := 0x10, command := 0x07 }, .send { address := 0x20, command := 0x07 },
    .attention { bytes := [0x02, 0x04, 0x03, 0x10, 0x62, 0x47, 0x03] } 5, .scan, .enumerate,
    .send { address := 0x01, command := 0x07 }]

theorem serves_of_answers (network : Network) (transactions : List Transaction) (accepts : Bool)
    (status : Bounded UInt8 maxParams)
    (answered : ∀ transaction ∈ transactions, transaction.controller.Takes ∧ transaction.Prompt ∧
      (transaction.packet.address ∈ network.nodes → transaction.Answers accepts status) ∧
      (transaction.packet.address ∉ network.nodes → transaction.reply.bytes = [])) :
    ∀ transaction ∈ transactions, network.Serves transaction := by
  intro transaction made
  obtain ⟨taken, prompt, answers, silent⟩ := answered transaction made
  exact ⟨taken, prompt, fun present => ⟨accepts, status, answers present⟩, silent⟩

end Network

end NodeBus
