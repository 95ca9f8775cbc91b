import NodeBus.Proofs.WatchedMonitors
import NodeBus.Proofs.MonitorReplies

/-!
# Clients and their connections

What a client does to its connection (`ClientAct`), what it has sent and heard in a run (`Deals`), and what a turn does
to the connection of a monitor (`Turns.touches`): it reads a line and answers it, writes a notice, closes it, or leaves
it alone. Whatever happens, the bytes that a client has sent are accounted for, and so is what it is told
(`Account`).
-/
namespace NodeBus

/-! ### What a client does -/

/-- What a client can do to its connection. -/
inductive ClientAct where
  | sends (bytes : List UInt8)
  | finishes
  | closes
  | aborts
  | listens

namespace ClientAct

def change : ClientAct → Stream → Stream
  | .sends bytes, connection =>
    if connection.closed then connection else { connection with incoming := connection.incoming ++ bytes }
  | .finishes, connection => { connection with finished := true }
  | .closes, connection => { connection with finished := true, deaf := true }
  | .aborts, connection => { connection with reset := true }
  | .listens, connection => { connection with outgoing := [] }

def sent : ClientAct → List UInt8
  | .sends bytes => bytes
  | _ => []

/-- What the client hears in it. -/
def heard (connection : Stream) : ClientAct → List UInt8
  | .listens => connection.outgoing
  | _ => []

theorem change_keeps (act : ClientAct) (connection : Stream) :
    (act.change connection).closed = connection.closed ∧
      (connection.finished = true → (act.change connection).finished = true) ∧
      (connection.reset = true → (act.change connection).reset = true) ∧
      (connection.incoming ≠ [] → (act.change connection).incoming ≠ []) := by
  cases act with
  | sends bytes =>
    by_cases closed : connection.closed = true
    · simp [change, closed]
    · simp +contextual [change, closed]
  | finishes | closes => exact ⟨rfl, fun _ => rfl, id, id⟩
  | aborts => exact ⟨rfl, id, fun _ => rfl, id⟩
  | listens => exact ⟨rfl, id, id, id⟩

/-- These are the acts of the clients around the loop. -/
theorem happens_change (loop : EventLoop) (stream : Nat) (act : ClientAct) :
    loop.happens (.client stream act.change) =
      match act with
      | .sends bytes => loop.clientSends stream bytes
      | .finishes => loop.clientFinishes stream
      | .closes => loop.clientCloses stream
      | .aborts => loop.clientAborts stream
      | .listens => (loop.clientHears stream).2 := by
  cases act <;> rfl

end ClientAct

/-! ### What a monitor is told -/

/-- What the loop tells a monitor. -/
inductive Message where
  | reply (line : List UInt8) (text : Monitor.Reply)
  | notice (interrupt : Interrupt)

namespace Message

def bytes : Message → List UInt8
  | .reply _ text => EventLoop.replyBytes text
  | .notice interrupt => EventLoop.replyBytes (Monitor.notice interrupt)

/-- The line that it answers. -/
def line? : Message → Option (List UInt8)
  | .reply line _ => some line
  | .notice _ => none

end Message

/-- The line of a monitor that a deed answers. -/
def Deed.lineOf? (stream : Nat) : Deed → Option (List UInt8)
  | .line author bytes => if author = stream then some bytes else none
  | _ => none

/-- The lines of a monitor that were answered, in order. -/
def linesOf (stream : Nat) (deeds : List Deed) : List (List UInt8) := deeds.filterMap (·.lineOf? stream)

namespace EventLoop

/-- In a run, the client of a connection sends some bytes and hears some bytes. All the rest of the run is up to
others. A client that has finished sends nothing more. -/
inductive Deals (first : EventLoop) (stream : Nat) : List Happening → List UInt8 → List UInt8 → Prop
  | begins : Deals first stream [] [] []
  | acts {run : List Happening} {sent heard : List UInt8} (act : ClientAct) (deals : Deals first stream run sent heard)
      (may : ((first.after run).streams stream).finished = true → act.sent = []) :
      Deals first stream (run ++ [.client stream act.change]) (sent ++ act.sent)
        (heard ++ act.heard ((first.after run).streams stream))
  | other {run : List Happening} {sent heard : List UInt8} (happening : Happening)
      (deals : Deals first stream run sent heard) (elsewhere : ∀ change, happening ≠ .client stream change) :
      Deals first stream (run ++ [happening]) sent heard

theorem Deals.others {first : EventLoop} {stream : Nat} {run : List Happening} {sent heard : List UInt8}
    (deals : first.Deals stream run sent heard) (happenings : List Happening)
    (elsewhere : ∀ happening ∈ happenings, ∀ change, happening ≠ .client stream change) :
    first.Deals stream (run ++ happenings) sent heard := by
  induction happenings generalizing run with
  | nil => simpa using deals
  | cons happening rest ih =>
    obtain ⟨mine, others⟩ := List.forall_mem_cons.mp elsewhere
    simpa using ih (deals.other happening mine) others

/-- What a monitor is told in a deed, as the loop stands before. -/
def message? (loop : EventLoop) (stream : Nat) : Deed → Option Message
  | .line author bytes => if author = stream then some (.reply bytes (loop.reply bytes)) else none
  | .burst (some interrupt) => if stream ∈ subscribersOf loop.watch.items then some (.notice interrupt) else none
  | _ => none

/-- What a monitor is told in a run, in order. -/
def messages (stream : Nat) : EventLoop → List Happening → List Message
  | _, [] => []
  | loop, happening :: rest =>
    ((loop.deed? happening).bind (loop.message? stream)).toList ++ messages stream (loop.happens happening) rest

theorem messages_snoc (stream : Nat) (loop : EventLoop) (run : List Happening) (happening : Happening) :
    loop.messages stream (run ++ [happening]) = loop.messages stream run ++
      (((loop.after run).deed? happening).bind ((loop.after run).message? stream)).toList := by
  induction run generalizing loop with
  | nil => simp [messages, after]
  | cons first rest ih => simp [messages, ih, after]

variable {loop next : EventLoop} {deed : Deed} {later : List Nat} {stream : Nat}

theorem lineOf?_eq (loop : EventLoop) (stream : Nat) (deed : Deed) :
    deed.lineOf? stream = (loop.message? stream deed).bind Message.line? := by
  cases deed with
  | line author bytes => by_cases same : author = stream <;> simp [Deed.lineOf?, message?, Message.line?, same]
  | burst raised =>
    cases raised with
    | none => rfl
    | some interrupt =>
      by_cases subscribed : stream ∈ subscribersOf loop.watch.items <;>
        simp [Deed.lineOf?, message?, Message.line?, subscribed]
  | _ => rfl

/-- Each line has one answer, and the answers come in the order of the lines. -/
theorem lines_messages (stream : Nat) (loop : EventLoop) (run : List Happening) :
    (loop.messages stream run).filterMap Message.line? = linesOf stream (loop.deeds run) := by
  induction run generalizing loop with
  | nil => rfl
  | cons happening rest ih =>
    have now : (((loop.deed? happening).bind (loop.message? stream)).toList).filterMap Message.line? =
        (loop.deed? happening).toList.filterMap (·.lineOf? stream) := by
      cases loop.deed? happening with
      | none => rfl
      | some deed =>
        have asked := loop.lineOf?_eq stream deed
        cases told : loop.message? stream deed with
        | none => simp [told, asked]
        | some message => simp [told, asked, List.filterMap_cons]
    rw [messages, deeds, linesOf, List.filterMap_append, List.filterMap_append, now, ih]
    rfl

/-! ### What a turn does to the connection of a monitor -/

/-- The ways a deed can touch the connection of a monitor. The last index is the connection afterwards. -/
inductive Touches (loop : EventLoop) (stream : Nat) : Deed → Stream → Prop
  | spared (deed : Deed) (silent : loop.message? stream deed = none) : Touches loop stream deed (loop.streams stream)
  | answered (index : Nat) (kind : Kind) (report : Bool) (bytes rest : List UInt8)
      (watched : loop.watch.items[index]? = some ⟨kind, .monitor stream, report⟩)
      (due : loop.LineDue index stream bytes rest) :
      Touches loop stream (.line stream bytes)
        ({ loop.streams stream with incoming := rest }.writtenOrClosed (replyBytes (loop.reply bytes)))
  | told (interrupt : Interrupt) (subscribed : stream ∈ subscribersOf loop.watch.items) :
      Touches loop stream (.burst (some interrupt))
        ((loop.streams stream).writtenOrClosed (replyBytes (Monitor.notice interrupt)))
  | dropped (index : Nat) (kind : Kind) (report : Bool)
      (watched : loop.watch.items[index]? = some ⟨kind, .monitor stream, report⟩) (gone : loop.Over index stream) :
      Touches loop stream (.monitorDropped stream) (loop.streams stream).close
  | refused (full : loop.watch.items.length = watchCapacity) :
      Touches loop stream (.monitorRefused stream) (loop.streams stream).close

theorem touches_setStream (loop rest : EventLoop) (deed : Deed) {other : Nat} (value : Stream)
    (same : rest.streams = loop.streams) (mine : other = stream → loop.Touches stream deed value)
    (silent : other ≠ stream → loop.message? stream deed = none) :
    loop.Touches stream deed ((rest.setStream other value).streams stream) := by
  by_cases isMine : other = stream
  · simpa [setStream, isMine] using mine isMine
  · have different : stream ≠ other := Ne.symm isMine
    simpa [setStream, different, same] using Touches.spared deed (silent isMine)

theorem Turns.touches (turns : Turns loop deed next) (distinct : loop.Distinct later)
    (unreceived : ∀ deadline, loop.activity ≠ .receiving stream deadline) :
    loop.Touches stream deed (next.streams stream) := by
  cases turns with
  | ended | requested | busFailed | commandAccepted | lineBegun | abandoned => exact .spared _ rfl
  | burst =>
    rcases raised : loop.controller.serviceInterrupt with ⟨_ | interrupt, controller⟩
    · rw [loop.serviceBus_none raised]
      exact .spared _ rfl
    · obtain ⟨watch, serviced, -⟩ := loop.serviceBus_some raised distinct.monitors
      rw [serviced]
      by_cases subscribed : stream ∈ subscribersOf loop.watch.items
      · simpa [toldStreams, subscribed] using Touches.told interrupt subscribed
      · simpa [toldStreams, subscribed] using
          Touches.spared (.burst (some interrupt)) (by simp [message?, subscribed])
  | monitorConnects listener other =>
    rcases (loop.accept listener).addMonitor_eq other with ⟨watch, added, -⟩ | ⟨refused, full⟩
    · rw [added]
      exact .spared _ rfl
    · rw [refused]
      apply touches_setStream loop (loop.accept listener) (.monitorRefused other) _ rfl
      · rintro rfl
        exact .refused full
      · exact fun _ => rfl
  | monitorDropped index other kind report watched gone =>
    obtain ⟨watch, dropped, -⟩ := dropMonitor_eq { loop with activity := .idle } watched
    rw [dropped]
    apply touches_setStream loop { loop with activity := .idle, watch } (.monitorDropped other) _ rfl
    · rintro rfl
      exact .dropped index kind report watched gone
    · exact fun _ => rfl
  | line index other kind report bytes rest watched due =>
    obtain ⟨watch, answered, -⟩ :=
      answerLine_eq { loop with activity := .idle } bytes rest distinct.monitors watched
    rw [answered, Service.reply_answerLine]
    apply touches_setStream loop _ (.line other bytes) _ rfl
    · rintro rfl
      exact .answered index kind report bytes rest watched due
    · intro different
      simp [message?, different]
  | commandServed other deadline receives =>
    have different : other ≠ stream := by
      rintro rfl
      exact unreceived deadline receives
    have elsewhere (rest : EventLoop) (value : Stream) (same : rest.streams = loop.streams) :=
      touches_setStream loop rest (.commandServed other (loop.streams other).incoming) value same
        (fun isMine => absurd isMine different) fun _ => rfl
    unfold serveCommand
    dsimp only
    split
    · exact elsewhere _ _ rfl
    · exact elsewhere _ _ rfl

end EventLoop

/-! ### What a connection owes -/

/-- What is accounted for at a connection: the lines taken from what its client has sent, and the texts written to what
its client has heard. -/
structure Account (connection : Stream) (lines texts : List (List UInt8)) (sent heard : List UInt8) : Prop where
  /-- What was sent is in the lines or still to be read. -/
  kept : connection.closed = false → lines.flatten ++ connection.incoming = sent
  /-- When the connection was closed, the rest is lost. -/
  cut : connection.closed = true → connection.incoming = [] ∧ lines.flatten <+: sent
  /-- A client that is connected and listens is told everything. -/
  told : connection.reset = false → connection.deaf = false → heard ++ connection.outgoing = texts.flatten
  /-- No client is told anything else. -/
  nothingElse : heard ++ connection.outgoing <+: texts.flatten

namespace Account

variable {connection : Stream} {lines texts : List (List UInt8)} {sent heard : List UInt8}

theorem flatten_isPrefix (account : Account connection lines texts sent heard) : lines.flatten <+: sent := by
  cases closed : connection.closed with
  | true => exact (account.cut closed).2
  | false => exact ⟨connection.incoming, account.kept closed⟩

theorem acts (account : Account connection lines texts sent heard) (act : ClientAct) :
    Account (act.change connection) lines texts (sent ++ act.sent) (heard ++ act.heard connection) := by
  obtain ⟨kept, cut, told, nothingElse⟩ := account
  cases act with
  | sends bytes =>
    cases closed : connection.closed with
    | true =>
      obtain ⟨nothing, part⟩ := cut closed
      simp only [ClientAct.change, closed, if_true, ClientAct.sent, ClientAct.heard, List.append_nil]
      exact ⟨by simp [closed], fun _ => ⟨nothing, part.trans (List.prefix_append _ _)⟩, told, nothingElse⟩
    | false =>
      simp only [ClientAct.change, closed, Bool.false_eq_true, if_false, ClientAct.sent, ClientAct.heard,
        List.append_nil]
      exact ⟨fun _ => by simp [← kept closed], by simp, told, nothingElse⟩
  | finishes =>
    simp only [ClientAct.sent, ClientAct.heard, List.append_nil]
    exact ⟨kept, cut, told, nothingElse⟩
  | closes =>
    simp only [ClientAct.sent, ClientAct.heard, List.append_nil]
    exact ⟨kept, cut, by simp [ClientAct.change], nothingElse⟩
  | aborts =>
    simp only [ClientAct.sent, ClientAct.heard, List.append_nil]
    exact ⟨kept, cut, by simp [ClientAct.change], nothingElse⟩
  | listens =>
    simp only [ClientAct.sent, ClientAct.heard, List.append_nil]
    exact ⟨kept, cut, by simpa [ClientAct.change] using told, by simpa [ClientAct.change] using nothingElse⟩

/-- A line is read. -/
theorem reads (account : Account connection lines texts sent heard) {line rest : List UInt8}
    (cutting : line ++ rest = connection.incoming) :
    Account { connection with incoming := rest } (lines ++ [line]) texts sent heard := by
  obtain ⟨kept, cut, told, nothingElse⟩ := account
  refine ⟨?_, ?_, told, nothingElse⟩
  · intro isOpen
    rw [← kept isOpen, ← cutting]
    simp
  · intro closed
    obtain ⟨nothing, part⟩ := cut closed
    obtain ⟨rfl, rfl⟩ := List.append_eq_nil_iff.mp (cutting.trans nothing)
    simpa using part

theorem close (account : Account connection lines texts sent heard) :
    Account connection.close lines texts sent heard :=
  ⟨by simp [Stream.close], fun _ => ⟨rfl, account.flatten_isPrefix⟩, account.told, account.nothingElse⟩

/-- Something is written. -/
theorem tells (account : Account connection lines texts sent heard) (text : List UInt8) :
    Account (connection.writtenOrClosed text) lines (texts ++ [text]) sent heard := by
  have longer : texts.flatten <+: (texts ++ [text]).flatten := by simp
  unfold Stream.writtenOrClosed Stream.write?
  split
  · rename_i reset
    have closed := account.close
    exact ⟨closed.kept, closed.cut, by simp [Stream.close, reset], closed.nothingElse.trans longer⟩
  · rename_i connected
    have connected : connection.reset = false := by simpa using connected
    split
    · exact ⟨account.kept, account.cut, by simp, account.nothingElse.trans longer⟩
    · rename_i listening
      have listening : connection.deaf = false := by simpa using listening
      have told : heard ++ (connection.outgoing ++ text) = (texts ++ [text]).flatten := by
        simp [← account.told connected listening]
      refine ⟨account.kept, account.cut, fun _ _ => told, ?_⟩
      rw [Option.getD_some, told]

end Account

end NodeBus
