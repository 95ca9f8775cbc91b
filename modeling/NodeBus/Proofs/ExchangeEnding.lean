import Mathlib
import NodeBus.Controller
import NodeBus.Proofs.CommandFrame
import NodeBus.Proofs.Deframing
import NodeBus.Proofs.Listening

/-!
# How an exchange ends

`Ends` lists every way an exchange can end, in terms of three things only: whether the port took the
request, which bytes could be heard afterwards, and what frame those bytes complete. `run_ending_iff` shows
that an exchange ends in exactly the way listed, with exactly the packet listed. Everything said later
about single exchanges is read off that list.

`exchange_classified` spells the list out as a condition for each outcome.
-/
namespace NodeBus.Exchange

/-! ### Bodies of answers -/

/-- The body of an answer: header byte, address, command, status bytes and their checksum. -/
def answerBody (variant : Variant) (header address command : UInt8) (status : List UInt8) : List UInt8 :=
  header :: address :: command :: status ++ variant.checkBytes (header :: address :: command :: status)

@[simp] theorem length_answerBody (variant : Variant) (header address command : UInt8)
    (status : List UInt8) :
    (answerBody variant header address command status).length = 3 + status.length + variant.length := by
  simp only [answerBody, List.length_append, List.length_cons, Variant.length_checkBytes]
  omega

theorem sealed_answerBody (variant : Variant) (header address command : UInt8) (status : List UInt8) :
    variant.Sealed (answerBody variant header address command status) :=
  ⟨header :: address :: command :: status, rfl⟩

theorem answerBody_inj {variant : Variant} {header header' address address' command command' : UInt8}
    {status status' : List UInt8}
    (same : answerBody variant header address command status =
      answerBody variant header' address' command' status') :
    header = header' ∧ address = address' ∧ command = command' ∧ status = status' := by
  have front := (List.append_inj' same (by simp only [Variant.length_checkBytes])).1
  simpa only [List.cons.injEq] using front

/-- A sealed body that is long enough is the body of some answer. -/
theorem eq_answerBody_of_sealed (variant : Variant) (body : List UInt8)
    (long : 3 + variant.length ≤ body.length) (whole : variant.Sealed body) :
    ∃ header address command status, body = answerBody variant header address command status := by
  obtain ⟨front, rfl⟩ := whole
  rw [List.length_append, Variant.length_checkBytes] at long
  match front, long with
  | header :: address :: command :: status, _ => exact ⟨header, address, command, status, rfl⟩
  | [_, _], long => simp only [List.length_cons, List.length_nil] at long; omega
  | [_], long => simp only [List.length_cons, List.length_nil] at long; omega
  | [], long => simp only [List.length_nil] at long; omega

theorem judge_short (variant : Variant) (body : List UInt8) (short : body.length < 3 + variant.length) :
    judge variant body = .error .framing := by
  match body, short with
  | [], _ => rfl
  | [_], _ => rfl
  | [_, _], _ => rfl
  | _ :: _ :: _ :: rest, short =>
    simp only [List.length_cons] at short
    exact if_pos (by omega)

theorem judge_damaged (variant : Variant) (body : List UInt8)
    (long : 3 + variant.length ≤ body.length) (damaged : ¬ variant.Sealed body) :
    judge variant body = .error .crc := by
  have fails : (!variant.passes body) = true := by
    rw [Bool.not_eq_true', ← Bool.not_eq_true, Variant.passes_iff_sealed]
    exact damaged
  match body, long, fails with
  | _ :: _ :: _ :: rest, long, fails =>
    simp only [List.length_cons] at long
    have enough : ¬ rest.length < variant.length := by omega
    simp only [judge, enough, fails, if_true, if_false]
  | [_, _], long, _ => simp only [List.length_cons, List.length_nil] at long; omega
  | [_], long, _ => simp only [List.length_cons, List.length_nil] at long; omega
  | [], long, _ => simp only [List.length_nil] at long; omega

/-- A sealed answer is judged by its header alone; its address and command do not matter. -/
theorem judge_answerBody (variant : Variant) (header address command : UInt8) (status : List UInt8) :
    judge variant (answerBody variant header address command status) =
      if header = (Header.ack variant).toByte then .ok status
      else if header = (Header.nak variant).toByte then .error .nak
      else .error .format := by
  have passes : (!variant.passes (answerBody variant header address command status)) = false := by
    rw [Bool.not_eq_false', Variant.passes_iff_sealed]
    exact sealed_answerBody variant header address command status
  simp only [answerBody, List.cons_append] at passes ⊢
  simp only [judge, passes, List.length_append, Variant.length_checkBytes, Nat.add_sub_cancel,
    List.take_left, Header.ofByte?_eq_some_iff, Bool.false_eq_true, if_false]
  exact if_neg (by omega)

/-! ### What is heard of an answer -/

/-- The bytes complete a frame, and this is its body. -/
def Completes (heard body : List UInt8) : Prop :=
  (Deframer.run {} heard).progress = .complete ∧ (Deframer.run {} heard).deframer.body = body

instance (heard body : List UInt8) : Decidable (Completes heard body) :=
  inferInstanceAs (Decidable (_ ∧ _))

theorem Completes.unique {heard body body' : List UInt8} (one : Completes heard body)
    (other : Completes heard body') : body = body' :=
  one.2.symm.trans other.2

theorem Completes.ne_nil {heard body : List UInt8} (complete : Completes heard body) : heard ≠ [] := by
  rintro rfl
  exact absurd complete.1 (by decide)

theorem Completes.length_le {heard body : List UInt8} (complete : Completes heard body) :
    body.length ≤ Frame.maxBody := by
  rw [← complete.2]
  exact Deframer.length_body_run_le heard

/-- What a listener that feeds a deframer has heard when the run is over. -/
def hearingOf (run : Deframer.Run) : Hearing (Except BusError (List UInt8)) Deframer :=
  match run.progress with
  | .complete => .enough (.ok run.deframer.body)
  | .broken => .enough (.error .framing)
  | .more => .more run.deframer

theorem hearAll_hear (deframer : Deframer) (bytes : List UInt8) :
    hearAll hear deframer bytes = (hearingOf (deframer.run bytes), (deframer.run bytes).taken) := by
  induction bytes generalizing deframer with
  | nil => rfl
  | cons byte rest ih =>
    rcases fed : deframer.feed byte with ⟨next, progress⟩
    cases progress with
    | more =>
      rw [Deframer.run_cons_more _ _ _ _ fed]
      simp only [hearAll, hear, fed, ih next]
      rfl
    | complete =>
      rw [Deframer.run_cons_ended _ _ _ _ _ fed (by decide)]
      simp only [hearAll, hear, fed]
      rfl
    | broken =>
      rw [Deframer.run_cons_ended _ _ _ _ _ fed (by decide)]
      simp only [hearAll, hear, fed]
      rfl

theorem listen_hear (bus : Bus) (budget : Nat) :
    (bus.listen budget hear {}).1 = hearingOf (Deframer.run {} (bus.audible budget)) := by
  have spec := (listenTo_spec budget hear {} bus.now bus.queue).1
  rw [hearAll_hear] at spec
  exact spec

theorem receive_complete (bus : Bus) (budget : Nat) (body : List UInt8)
    (complete : Completes (bus.audible budget) body) : (receive bus budget).1 = .ok body := by
  have hearing := listen_hear bus budget
  rcases heard : bus.listen budget hear {} with ⟨result, after⟩
  rw [heard] at hearing
  simp only [hearingOf, complete.1, complete.2] at hearing
  subst hearing
  simp only [receive, heard]

theorem receive_silent (bus : Bus) (budget : Nat) (nothing : bus.audible budget = []) :
    (receive bus budget).1 = .error .rxTimeout := by
  have hearing := listen_hear bus budget
  rcases heard : bus.listen budget hear {} with ⟨result, after⟩
  rw [heard, nothing] at hearing
  change result = .more {} at hearing
  subst hearing
  simp only [receive, heard]
  rfl

theorem receive_unfinished (bus : Bus) (budget : Nat) (something : bus.audible budget ≠ [])
    (unfinished : (Deframer.run {} (bus.audible budget)).progress ≠ .complete) :
    (receive bus budget).1 = .error .framing := by
  have hearing := listen_hear bus budget
  have started := (Deframer.started_run (bus.audible budget)).mpr something
  rcases heard : bus.listen budget hear {} with ⟨result, after⟩
  rw [heard] at hearing
  rcases progress : (Deframer.run {} (bus.audible budget)).progress with _ | _ | _
  · simp only [hearingOf, progress] at hearing
    subst hearing
    simp only [receive, heard, silence, started, if_true]
  · exact absurd progress unfinished
  · simp only [hearingOf, progress] at hearing
    subst hearing
    simp only [receive, heard]

/-! ### Every ending -/

/-- The ways an exchange can end, by whether the port took the request and by what was heard after it.
The two indices are the outcome and the packet as it is handed back. -/
inductive Ends (variant : Variant) (taken : Prop) (heard : List UInt8) (packet : Packet) :
    Outcome → Packet → Prop
  | untaken (refused : ¬ taken) : Ends variant taken heard packet (.error .txTimeout) packet
  | broadcast (sent : taken) (everyone : packet.isBroadcast = true) :
      Ends variant taken heard packet (.ok ()) packet
  | silent (sent : taken) (unicast : packet.isBroadcast = false) (nothing : heard = []) :
      Ends variant taken heard packet (.error .rxTimeout) packet
  | unfinished (sent : taken) (unicast : packet.isBroadcast = false) (something : heard ≠ [])
      (incomplete : ∀ body, ¬ Completes heard body) :
      Ends variant taken heard packet (.error .framing) packet
  | short (sent : taken) (unicast : packet.isBroadcast = false) (body : List UInt8)
      (complete : Completes heard body) (missing : body.length < 3 + variant.length) :
      Ends variant taken heard packet (.error .framing) packet
  | damaged (sent : taken) (unicast : packet.isBroadcast = false) (body : List UInt8)
      (complete : Completes heard body) (long : 3 + variant.length ≤ body.length)
      (broken : ¬ variant.Sealed body) : Ends variant taken heard packet (.error .crc) packet
  | refusal (sent : taken) (unicast : packet.isBroadcast = false) (address command : UInt8)
      (status : List UInt8)
      (complete : Completes heard
        (answerBody variant (Header.nak variant).toByte address command status)) :
      Ends variant taken heard packet (.error .nak) packet
  | strange (sent : taken) (unicast : packet.isBroadcast = false) (header address command : UInt8)
      (status : List UInt8) (notAck : header ≠ (Header.ack variant).toByte)
      (notNak : header ≠ (Header.nak variant).toByte)
      (complete : Completes heard (answerBody variant header address command status)) :
      Ends variant taken heard packet (.error .format) packet
  | overlong (sent : taken) (unicast : packet.isBroadcast = false) (address command : UInt8)
      (status : List UInt8) (tooMany : maxParams < status.length)
      (complete : Completes heard
        (answerBody variant (Header.ack variant).toByte address command status)) :
      Ends variant taken heard packet (.error .framing) { packet with status := .empty }
  | accepted (sent : taken) (unicast : packet.isBroadcast = false) (address command : UInt8)
      (status : Bounded UInt8 maxParams)
      (complete : Completes heard
        (answerBody variant (Header.ack variant).toByte address command status.items)) :
      Ends variant taken heard packet (.ok ()) { packet with status }

/-- There is no other way. The cases follow the order in which an answer is judged. -/
theorem Ends.total (variant : Variant) (taken : Prop) (heard : List UInt8) (packet : Packet) :
    ∃ outcome after, Ends variant taken heard packet outcome after := by
  by_cases sent : taken
  case neg => exact ⟨_, _, .untaken sent⟩
  cases cast : packet.isBroadcast with
  | true => exact ⟨_, _, .broadcast sent cast⟩
  | false =>
    by_cases nothing : heard = []
    · exact ⟨_, _, .silent sent cast nothing⟩
    by_cases complete : ∃ body, Completes heard body
    case neg =>
      exact ⟨_, _, .unfinished sent cast nothing fun body heardBody => complete ⟨body, heardBody⟩⟩
    obtain ⟨body, complete⟩ := complete
    by_cases short : body.length < 3 + variant.length
    · exact ⟨_, _, .short sent cast body complete short⟩
    have long : 3 + variant.length ≤ body.length := Nat.le_of_not_lt short
    by_cases whole : variant.Sealed body
    case neg => exact ⟨_, _, .damaged sent cast body complete long whole⟩
    obtain ⟨header, address, command, status, rfl⟩ := eq_answerBody_of_sealed variant body long whole
    by_cases nak : header = (Header.nak variant).toByte
    · subst nak
      exact ⟨_, _, .refusal sent cast address command status complete⟩
    by_cases ack : header = (Header.ack variant).toByte
    case neg => exact ⟨_, _, .strange sent cast header address command status ack nak complete⟩
    subst ack
    by_cases fits : status.length ≤ maxParams
    · exact ⟨_, _, .accepted sent cast address command ⟨status, fits⟩ complete⟩
    · exact ⟨_, _, .overlong sent cast address command status (Nat.lt_of_not_le fits) complete⟩

/-! ### The exchange ends as listed -/

section Answering

variable (timing : Timing) (variant : Variant) (bus : Bus) (packet : Packet) (budget : Nat)

theorem answer_of_error (error : BusError) (received : (receive bus budget).1 = .error error) :
    (answer timing variant bus packet budget).outcome = .error error ∧
      (answer timing variant bus packet budget).packet = packet := by
  unfold answer
  rcases receiving : receive bus budget with ⟨result, after⟩
  rw [receiving] at received
  change result = _ at received
  subst received
  exact ⟨rfl, rfl⟩

theorem answer_of_body (body : List UInt8) (received : (receive bus budget).1 = .ok body) :
    answer timing variant bus packet budget =
      match judge variant body with
      | .error error => { outcome := .error error, packet, bus := (receive bus budget).2 }
      | .ok status => settle timing (receive bus budget).2 packet status := by
  unfold answer
  rcases receiving : receive bus budget with ⟨result, after⟩
  rw [receiving] at received
  change result = _ at received
  subst received
  rfl

end Answering

section Running

variable (table : NodeTable) (timing : Timing) (bus : Bus) (packet : Packet) (budget : Nat)

/-- The bytes that can be heard after a packet was written, each within the budget. -/
def heardAfter : List UInt8 :=
  (bus.write timing.write (Frame.commandFrame (table.variantFor packet.address) packet)).2.audible budget

/-- When the port does not take the request the exchange is over. -/
theorem run_untaken (refused : ¬ bus.Takes timing.write) :
    run table timing bus packet budget =
      { outcome := .error .txTimeout, packet,
        bus := (bus.write timing.write (Frame.commandFrame (table.variantFor packet.address) packet)).2 } := by
  have notWritten := mt (Bus.write_taken_iff bus timing.write
    (Frame.commandFrame (table.variantFor packet.address) packet)).mp refused
  rw [Bool.not_eq_true] at notWritten
  simp only [run, Frame.encodeCommand?_eq]
  rcases written : bus.write timing.write _ with ⟨done, after⟩
  rw [written] at notWritten
  change done = false at notWritten
  subst notWritten
  rfl

/-- Once the port took the request, a broadcast is over and any other packet awaits its answer. -/
theorem run_taken (sent : bus.Takes timing.write) :
    run table timing bus packet budget =
      let variant := table.variantFor packet.address
      let after := (bus.write timing.write (Frame.commandFrame variant packet)).2
      if packet.isBroadcast then
        { outcome := .ok (), packet, bus := after.pause timing.broadcastSettle }
      else answer timing variant after packet budget := by
  have written := (Bus.write_taken_iff bus timing.write
    (Frame.commandFrame (table.variantFor packet.address) packet)).mpr sent
  simp only [run, Frame.encodeCommand?_eq]
  rcases writing : bus.write timing.write _ with ⟨done, after⟩
  rw [writing] at written
  change done = true at written
  subst written
  rfl

theorem run_unicast (sent : bus.Takes timing.write) (unicast : packet.isBroadcast = false) :
    run table timing bus packet budget =
      answer timing (table.variantFor packet.address)
        (bus.write timing.write (Frame.commandFrame (table.variantFor packet.address) packet)).2
        packet budget := by
  rw [run_taken table timing bus packet budget sent]
  simp only [unicast, Bool.false_eq_true, if_false]

theorem run_of_ending {outcome : Outcome} {after : Packet}
    (ending : Ends (table.variantFor packet.address) (bus.Takes timing.write)
      (heardAfter table timing bus packet budget) packet outcome after) :
    (run table timing bus packet budget).outcome = outcome ∧
      (run table timing bus packet budget).packet = after := by
  cases ending with
  | untaken refused =>
    rw [run_untaken table timing bus packet budget refused]
    exact ⟨rfl, rfl⟩
  | broadcast sent everyone =>
    rw [run_taken table timing bus packet budget sent]
    simp only [everyone, if_true, and_self]
  | silent sent unicast nothing =>
    rw [run_unicast table timing bus packet budget sent unicast]
    exact answer_of_error _ _ _ _ _ _ (receive_silent _ _ nothing)
  | unfinished sent unicast something incomplete =>
    rw [run_unicast table timing bus packet budget sent unicast]
    have notComplete := fun progress => incomplete _ ⟨progress, rfl⟩
    exact answer_of_error _ _ _ _ _ _ (receive_unfinished _ _ something notComplete)
  | short sent unicast body complete missing =>
    rw [run_unicast table timing bus packet budget sent unicast,
      answer_of_body _ _ _ _ _ body (receive_complete _ _ _ complete), judge_short _ _ missing]
    exact ⟨rfl, rfl⟩
  | damaged sent unicast body complete long broken =>
    rw [run_unicast table timing bus packet budget sent unicast,
      answer_of_body _ _ _ _ _ body (receive_complete _ _ _ complete), judge_damaged _ _ long broken]
    exact ⟨rfl, rfl⟩
  | refusal sent unicast address command status complete =>
    have notAck := Header.nak_toByte_ne_ack (table.variantFor packet.address)
    rw [run_unicast table timing bus packet budget sent unicast,
      answer_of_body _ _ _ _ _ _ (receive_complete _ _ _ complete), judge_answerBody,
      if_neg notAck, if_pos rfl]
    exact ⟨rfl, rfl⟩
  | strange sent unicast header address command status notAck notNak complete =>
    rw [run_unicast table timing bus packet budget sent unicast,
      answer_of_body _ _ _ _ _ _ (receive_complete _ _ _ complete), judge_answerBody,
      if_neg notAck, if_neg notNak]
    exact ⟨rfl, rfl⟩
  | overlong sent unicast address command status tooMany complete =>
    rw [run_unicast table timing bus packet budget sent unicast,
      answer_of_body _ _ _ _ _ _ (receive_complete _ _ _ complete), judge_answerBody, if_pos rfl]
    simp only [settle, Bounded.ofList?, Nat.not_le.mpr tooMany, dif_neg, not_false_eq_true, and_self]
  | accepted sent unicast address command status complete =>
    rw [run_unicast table timing bus packet budget sent unicast,
      answer_of_body _ _ _ _ _ _ (receive_complete _ _ _ complete), judge_answerBody, if_pos rfl]
    simp only [settle, Bounded.ofList?, status.fits, dif_pos, and_self]

/-- An exchange ends in exactly the listed way: with the listed outcome and packet, and no others. -/
theorem run_ending_iff (outcome : Outcome) (after : Packet) :
    Ends (table.variantFor packet.address) (bus.Takes timing.write)
        (heardAfter table timing bus packet budget) packet outcome after ↔
      (run table timing bus packet budget).outcome = outcome ∧
        (run table timing bus packet budget).packet = after := by
  constructor
  · exact run_of_ending table timing bus packet budget
  · rintro ⟨rfl, rfl⟩
    obtain ⟨outcome, after, ending⟩ := Ends.total (table.variantFor packet.address)
      (bus.Takes timing.write) (heardAfter table timing bus packet budget) packet
    obtain ⟨sameOutcome, samePacket⟩ := run_of_ending table timing bus packet budget ending
    rw [sameOutcome, samePacket]
    exact ending

end Running

end NodeBus.Exchange
