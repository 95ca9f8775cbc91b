import NodeBus.Proofs.ClientDealings

/-!
# How the streams of monitors are cut

The bytes that a monitor sends are cut into lines, each of which is answered once (`streams_cut`). A turn keeps the
account of the connection (`Kept.turn`), whether or not the loop is in the middle of a line. That a line without an end
is cut off only when its time is over needs the turn that began it (`Begun`).
-/
namespace NodeBus

/-! ### Cutting a line -/

/-- What cutting a line off some bytes gives. -/
structure CutOff (limit : Nat) (bytes line rest : List UInt8) : Prop where
  whole : line ++ rest = bytes
  short : line.length ≤ limit
  /-- Only the last byte can be a newline. -/
  inside : newline ∉ line.dropLast
  /-- More would have been cut off, if it was there, up to a newline or to the limit. -/
  ends : rest = [] ∨ line.length = limit ∨ line.getLast? = some newline

theorem cutOff_of_cutLine {limit : Nat} {bytes line rest : List UInt8} (cut : cutLine limit bytes = (line, rest)) :
    CutOff limit bytes line rest := by
  induction limit generalizing bytes line with
  | zero =>
    obtain ⟨rfl, rfl⟩ := Prod.mk.inj cut
    exact ⟨rfl, Nat.le_refl _, by simp, .inr (.inl rfl)⟩
  | succ limit ih =>
    cases bytes with
    | nil =>
      obtain ⟨rfl, rfl⟩ := Prod.mk.inj cut
      exact ⟨rfl, Nat.zero_le _, by simp, .inl rfl⟩
    | cons byte others =>
      rw [cutLine] at cut
      split at cut
      · rename_i isNewline
        obtain ⟨rfl, rfl⟩ := Prod.mk.inj cut
        exact ⟨rfl, by simp, by simp, .inr (.inr (by simp [isNewline]))⟩
      · rename_i notNewline
        rcases later : cutLine limit others with ⟨line', rest'⟩
        rw [later] at cut
        obtain ⟨rfl, rfl⟩ := Prod.mk.inj cut
        obtain ⟨whole, short, inside, ends⟩ := ih later
        refine ⟨by rw [List.cons_append, whole], by simpa using short, ?_, ?_⟩
        · cases line' with
          | nil => simp
          | cons => simpa [List.dropLast_cons_of_ne_nil, eq_comm, notNewline] using inside
        · refine ends.imp_right (Or.imp (by simp) ?_)
          intro last
          rw [List.getLast?_cons, last]
          rfl

namespace EventLoop

variable {loop next : EventLoop} {deed : Deed} {later : List Nat} {stream : Nat}

/-! ### Turns and what the loop is in the middle of -/

/-- Only a turn that accepts a command connection starts to receive from it. -/
theorem Turns.receiving (turns : Turns loop deed next) {deadline : Nat}
    (receives : next.activity = .receiving stream deadline) : deed = .commandAccepted stream := by
  cases turns.steers with
  | frees _ _ _ _ free =>
    rcases free with idle | ⟨exit, ended⟩
    · simp [idle] at receives
    · simp [ended] at receives
  | accepts _ _ listener other _ _ _ _ turnsTo =>
    rcases turnsTo with idle | ⟨done, deadline, activity⟩
    · simp [idle] at receives
    · obtain ⟨rfl, -⟩ : other = stream ∧ _ := by simpa [activity] using receives
      exact done
  | begins => cases receives

/-- Only a turn that finds something from a monitor begins a line. -/
theorem Turns.readingLine (turns : Turns loop deed next) {index deadline : Nat}
    (reads : next.activity = .readingLine index deadline) :
    ∃ author kind report, deed = .lineBegun author ∧
      loop.watch.items[index]? = some ⟨kind, .monitor author, report⟩ ∧ (loop.streams author).incoming ≠ [] ∧
      next = { loop with activity := .readingLine index (loop.now + lineTimeout) } ∧
      deadline = loop.now + lineTimeout := by
  cases turns.steers with
  | frees _ _ _ _ free =>
    rcases free with idle | ⟨exit, ended⟩
    · simp [idle] at reads
    · simp [ended] at reads
  | accepts _ _ listener other _ _ _ _ turnsTo =>
    rcases turnsTo with idle | ⟨-, deadline, activity⟩
    · simp [idle] at reads
    · simp [activity] at reads
  | begins place author kind report watched something =>
    obtain ⟨rfl, rfl⟩ := Activity.readingLine.inj reads
    exact ⟨author, kind, report, rfl, watched, something, rfl, rfl⟩

/-! ### The account of a monitor -/

/-- What is kept about the connection of a monitor, after some deeds and some messages to it. -/
structure Kept (loop : EventLoop) (stream : Nat) (deeds : List Deed) (messages : List Message)
    (sent heard : List UInt8) : Prop where
  account : Account (loop.streams stream) (linesOf stream deeds) (messages.map Message.bytes) sent heard
  /-- Only connections that were accepted are closed, and none that is watched. -/
  closed : (loop.streams stream).closed = true → stream ∈ newcomers deeds
  watched : stream ∈ monitorsOf loop.watch.items → (loop.streams stream).closed = false
  unreceived : ∀ deadline, loop.activity ≠ .receiving stream deadline
  /-- There is something to read in a line that has begun. -/
  reading : ∀ index deadline kind report, loop.activity = .readingLine index deadline →
    loop.watch.items[index]? = some ⟨kind, .monitor stream, report⟩ → (loop.streams stream).incoming ≠ []
  /-- A monitor that is not watched any more has failed, or it has finished and all of its lines were answered. -/
  served : stream ∈ admissions deeds → stream ∉ monitorsOf loop.watch.items →
    (loop.streams stream).reset = true ∨
      (loop.streams stream).finished = true ∧ (linesOf stream deeds).flatten = sent

/-- What a turn does to the marks of a connection. -/
theorem Touches.keeps {connection : Stream} (touches : loop.Touches stream deed connection) :
    connection.finished = (loop.streams stream).finished ∧
      ((loop.streams stream).reset = true → connection.reset = true) := by
  cases touches with
  | spared => exact ⟨rfl, id⟩
  | answered index kind report bytes rest =>
    exact (Stream.writtenOrClosed_keeps { loop.streams stream with incoming := rest } _).2
  | told => exact (Stream.writtenOrClosed_keeps _ _).2
  | dropped | refused => exact ⟨rfl, id⟩

theorem Touches.account {connection : Stream} (touches : loop.Touches stream deed connection)
    {lines : List (List UInt8)} {messages : List Message} {sent heard : List UInt8}
    (account : Account (loop.streams stream) lines (messages.map Message.bytes) sent heard) :
    Account connection (lines ++ (deed.lineOf? stream).toList)
      ((messages ++ (loop.message? stream deed).toList).map Message.bytes) sent heard := by
  cases touches with
  | spared deed silent =>
    have noLine : deed.lineOf? stream = none := by simp [loop.lineOf?_eq, silent]
    simpa [silent, noLine] using account
  | answered index kind report bytes rest watched due =>
    simpa [Deed.lineOf?, message?, Message.bytes] using
      (account.reads (cutOff_of_cutLine due.cut).whole).tells (replyBytes (loop.reply bytes))
  | told interrupt subscribed =>
    simpa [Deed.lineOf?, message?, subscribed, Message.bytes] using
      account.tells (replyBytes (Monitor.notice interrupt))
  | dropped | refused => simpa [Deed.lineOf?, message?] using account.close

/-- A connection that is closed in a turn was watched or is refused. -/
theorem Touches.newcomer {connection : Stream} (touches : loop.Touches stream deed connection)
    (isOpen : (loop.streams stream).closed = false) (closed : connection.closed = true) :
    stream ∈ monitorsOf loop.watch.items ∨ deed.newcomer? = some stream := by
  cases touches with
  | spared => simp [isOpen] at closed
  | answered index kind report bytes rest watched =>
    exact .inl (mem_monitorsOf.mpr ⟨_, List.mem_of_getElem? watched, rfl⟩)
  | told interrupt subscribed => exact .inl (mem_monitorsOf_of_subscribersOf subscribed)
  | dropped index kind report watched => exact .inl (mem_monitorsOf.mpr ⟨_, List.mem_of_getElem? watched, rfl⟩)
  | refused => exact .inr rfl

/-- Only the lines of watched monitors are answered. -/
theorem Touches.noLine {connection : Stream} (touches : loop.Touches stream deed connection)
    (unwatched : stream ∉ monitorsOf loop.watch.items) : deed.lineOf? stream = none := by
  cases touches with
  | spared deed silent => simp [loop.lineOf?_eq, silent]
  | answered index kind report bytes rest watched =>
    exact absurd (mem_monitorsOf.mpr ⟨_, List.mem_of_getElem? watched, rfl⟩) unwatched
  | told | dropped | refused => rfl

/-- A monitor that is still watched after a turn is open. -/
theorem Turns.open_of_watched (turns : Turns loop deed next) (distinct : loop.Distinct later)
    {connection : Stream} (touches : loop.Touches stream deed connection)
    (isOpen : stream ∈ monitorsOf loop.watch.items → (loop.streams stream).closed = false)
    (unseen : deed.newcomer? = some stream →
      stream ∉ monitorsOf loop.watch.items ∧ (loop.streams stream).closed = false)
    (still : stream ∈ monitorsOf next.watch.items) : connection.closed = false := by
  cases touches with
  | spared deed silent =>
    rw [turns.monitors_eq distinct, monitorsOf, List.mem_append] at still
    rcases still with old | entered
    · exact isOpen ((List.filter_sublist.filterMap _).subset old)
    · cases deed with
      | monitorAccepted other =>
        obtain rfl : stream = other := by simpa [Deed.entered, monitorsOf, Endpoint.monitor?] using entered
        exact (unseen rfl).2
      | _ => simp [Deed.entered, monitorsOf] at entered
  | answered index kind report bytes rest watched =>
    have listed := List.mem_of_getElem? watched
    have isOpen := isOpen (mem_monitorsOf.mpr ⟨_, listed, rfl⟩)
    have connected : (loop.streams stream).reset = false := by
      by_contra reset
      exact turns.unwatched_of_loses distinct listed rfl (by simpa [loses] using reset) still
    simp [Stream.writtenOrClosed_keeps, isOpen, connected]
  | told interrupt subscribed =>
    obtain ⟨entry, listed, report, connection⟩ := mem_subscribersOf.mp subscribed
    have isOpen := isOpen (mem_monitorsOf.mpr ⟨entry, listed, connection⟩)
    have connected : (loop.streams stream).reset = false := by
      by_contra reset
      have fails : loop.loses (.burst (some interrupt)) entry = true := by
        simpa [loses, failsToHear, WatchEntry.subscriber?_eq_some_iff.mpr ⟨report, connection⟩] using reset
      exact turns.unwatched_of_loses distinct listed connection fails still
    simp [Stream.writtenOrClosed_keeps, isOpen, connected]
  | dropped index kind report watched =>
    have lost := turns.unwatched_of_loses distinct (List.mem_of_getElem? watched) rfl (by simp [loses])
    exact absurd still lost
  | refused =>
    obtain ⟨-, same⟩ := (turns.watchTurn distinct).refused stream rfl
    rw [same] at still
    exact absurd still (unseen rfl).1

/-- A monitor that is lost has failed, or it has finished and nothing of it is left. -/
theorem Lost.failed_or_finished (lost : loop.Lost stream deed)
    (reading : ∀ index deadline kind report, loop.activity = .readingLine index deadline →
      loop.watch.items[index]? = some ⟨kind, .monitor stream, report⟩ → (loop.streams stream).incoming ≠ []) :
    (loop.streams stream).reset = true ∨
      (loop.streams stream).finished = true ∧ (loop.streams stream).incoming = [] ∧ deed.lineOf? stream = none := by
  cases lost with
  | gone index kind report watched gone =>
    cases gone with
    | closed finished nothing => exact .inr ⟨finished, nothing, rfl⟩
    | failed reset => exact .inl reset
    | timedOut deadline reads passed nothing => exact absurd nothing (reading index deadline kind report reads watched)
  | unanswered line failed => exact .inl (Stream.write?_eq_none_iff.mp failed)
  | unheard interrupt subscribed failed => exact .inl (Stream.write?_eq_none_iff.mp failed)

variable {deeds : List Deed} {messages : List Message} {sent heard : List UInt8}

theorem linesOf_snoc (stream : Nat) (deeds : List Deed) (deed : Deed) :
    linesOf stream (deeds ++ [deed]) = linesOf stream deeds ++ (deed.lineOf? stream).toList := by
  cases line : deed.lineOf? stream <;> simp [linesOf, line]

/-- What a turn keeps. -/
theorem Kept.turn (kept : loop.Kept stream deeds messages sent heard) (turns : Turns loop deed next)
    (distinct : loop.Distinct later) (known : ∀ other ∈ monitorsOf loop.watch.items, other ∈ newcomers deeds)
    (once : (newcomers (deeds ++ [deed])).Nodup) (notCommand : deed ≠ .commandAccepted stream) :
    next.Kept stream (deeds ++ [deed]) (messages ++ (loop.message? stream deed).toList) sent heard := by
  have touches := turns.touches distinct kept.unreceived
  have unseen (newcomer : deed.newcomer? = some stream) : stream ∉ newcomers deeds := by
    intro before
    have twice : (newcomers deeds ++ [stream]).Nodup := by simpa [newcomers, newcomer] using once
    exact (List.nodup_append.mp twice).2.2 stream before stream (List.mem_singleton.mpr rfl) rfl
  constructor
  case account =>
    rw [linesOf_snoc]
    exact touches.account kept.account
  case closed =>
    intro closed
    simp only [newcomers, List.filterMap_append, List.mem_append]
    cases before : (loop.streams stream).closed with
    | true => exact .inl (kept.closed before)
    | false =>
      rcases touches.newcomer before closed with watched | newcomer
      · exact .inl (known stream watched)
      · exact .inr (by simp [newcomer])
  case watched =>
    apply turns.open_of_watched distinct touches kept.watched
    intro newcomer
    refine ⟨fun watched => unseen newcomer (known stream watched), ?_⟩
    by_contra closed
    exact unseen newcomer (kept.closed (by simpa using closed))
  case unreceived => exact fun deadline receives => notCommand (turns.receiving receives)
  case reading =>
    intro index deadline kind report reads watched
    obtain ⟨author, _, _, -, found, something, rfl, -⟩ := turns.readingLine reads
    obtain ⟨-, same, -⟩ : _ ∧ author = stream ∧ _ := by simpa [found] using watched
    exact same ▸ something
  case served =>
    intro admitted unwatched
    obtain ⟨finished, reset⟩ := touches.keeps
    by_cases watched : stream ∈ monitorsOf loop.watch.items
    · have lost := (turns.watchTurn distinct).lost stream watched unwatched
      refine (lost.failed_or_finished kept.reading).imp reset ?_
      rintro ⟨ended, nothing, noLine⟩
      have all := kept.account.kept (kept.watched watched)
      refine ⟨finished.trans ended, ?_⟩
      simpa [linesOf_snoc, noLine, nothing] using all
    · have before : stream ∈ admissions deeds := by
        simp only [admissions, List.flatMap_append, List.mem_append] at admitted
        refine admitted.resolve_right ?_
        intro now
        apply unwatched
        rw [turns.monitors_eq distinct]
        exact List.mem_append_right _ (by simpa using now)
      have noLine := touches.noLine watched
      refine (kept.served before watched).imp reset ?_
      rintro ⟨ended, all⟩
      exact ⟨finished.trans ended, by simpa [linesOf_snoc, noLine] using all⟩

/-! ### Along a run -/

theorem Kept.act (kept : loop.Kept stream deeds messages sent heard) (act : ClientAct)
    (may : (loop.streams stream).finished = true → act.sent = []) :
    (loop.happens (.client stream act.change)).Kept stream deeds messages (sent ++ act.sent)
      (heard ++ act.heard (loop.streams stream)) := by
  have changed : (loop.happens (.client stream act.change)).streams stream = act.change (loop.streams stream) := by
    simp [happens, clientDoes, setStream]
  obtain ⟨closed, finished, reset, incoming⟩ := act.change_keeps (loop.streams stream)
  constructor
  case account =>
    rw [changed]
    exact kept.account.acts act
  case closed =>
    rw [changed, closed]
    exact kept.closed
  case watched =>
    rw [changed, closed]
    exact kept.watched
  case unreceived => exact kept.unreceived
  case reading =>
    intro index deadline kind report reads watched
    rw [changed]
    exact incoming (kept.reading index deadline kind report reads watched)
  case served =>
    intro admitted unwatched
    rw [changed]
    refine (kept.served admitted unwatched).imp reset ?_
    rintro ⟨ended, all⟩
    exact ⟨finished ended, by simpa [may ended] using all⟩

theorem Kept.idles (kept : loop.Kept stream deeds messages sent heard) {happening : Happening}
    (idles : loop.Idles happening) (elsewhere : ∀ change, happening ≠ .client stream change) :
    (loop.happens happening).Kept stream deeds messages sent heard := by
  have same := idles.streams stream elsewhere
  constructor
  case account => simpa only [same] using kept.account
  case closed => simpa only [same] using kept.closed
  case watched => simpa only [same, idles.watch] using kept.watched
  case unreceived => simpa only [idles.activity] using kept.unreceived
  case reading => simpa only [same, idles.activity, idles.watch] using kept.reading
  case served => simpa only [same, idles.watch] using kept.served

/-- In whatever way a run goes, the account of a monitor is kept. -/
theorem Deals.kept {first : EventLoop} {run : List Happening} (deals : first.Deals stream run sent heard)
    (begun : first.Kept stream [] [] [] []) (noMonitor : monitorsOf first.watch.items = [])
    (distinct : first.Distinct (connections run)) (notCommand : .commandAccepted stream ∉ first.deeds run) :
    (first.after run).Kept stream (first.deeds run) (first.messages stream run) sent heard := by
  induction deals with
  | begins => exact begun
  | @acts run sent heard act deals may ih =>
    have noDeed : (first.after run).deed? (.client stream act.change) = none := rfl
    rw [deeds_snoc, noDeed] at notCommand
    rw [after_snoc, deeds_snoc, messages_snoc, noDeed]
    simpa using (ih distinct.before (by simpa using notCommand)).act act may
  | @other run sent heard happening deals elsewhere ih =>
    rw [deeds_snoc, List.mem_append, not_or] at notCommand
    have kept := ih distinct.before notCommand.1
    rw [after_snoc, deeds_snoc, messages_snoc]
    rcases (first.after run).happens_cases happening with ⟨deed, next, -, turned, same, done⟩ | idles
    · have ordered := (ordered_after distinct.before noMonitor).trans (admissions_sublist _)
      have once := newcomers_nodup distinct
      rw [deeds_snoc, done] at once
      have notCommand : deed ≠ .commandAccepted stream := by
        rintro rfl
        simp [done] at notCommand
      rw [same, done]
      simpa using kept.turn (turns_of_turn turned) distinct.after (fun other watched => ordered.subset watched)
        once notCommand
    · simpa [idles.noDeed] using kept.idles idles elsewhere

/-! ### Where deeds and messages come from -/

variable {first : EventLoop} {run : List Happening}

theorem turn_of_deed (done : deed ∈ first.deeds run) :
    ∃ before later next, run = before ++ .turn :: later ∧ (first.after before).turn = some (deed, next) := by
  induction run using List.reverseRecOn with
  | nil => cases done
  | append_singleton earlier happening ih =>
    rw [deeds_snoc, List.mem_append] at done
    rcases done with early | now
    · obtain ⟨before, later, next, rfl, turned⟩ := ih early
      exact ⟨before, later ++ [happening], next, by simp, turned⟩
    · rcases (first.after earlier).happens_cases happening with ⟨other, next, rfl, turned, -, did⟩ | idles
      · obtain rfl : deed = other := by simpa [did] using now
        exact ⟨earlier, [], next, rfl, turned⟩
      · simp [idles.noDeed] at now

theorem isReplyLine_of_message? {message : Message} (told : loop.message? stream deed = some message) :
    IsReplyLine message.bytes := by
  cases deed with
  | line author bytes =>
    obtain ⟨-, rfl⟩ : author = stream ∧ _ := by simpa [message?] using told
    exact Service.isReplyLine_answerLine _ _ _
  | burst raised =>
    cases raised with
    | none => cases told
    | some interrupt =>
      obtain ⟨-, rfl⟩ : stream ∈ subscribersOf loop.watch.items ∧ _ := by simpa [message?] using told
      exact (Monitor.notice_written interrupt).2
  | _ => cases told

/-- Everything that a monitor is told is one line. -/
theorem isReplyLine_messages {message : Message} (told : message ∈ first.messages stream run) :
    IsReplyLine message.bytes := by
  induction run generalizing first with
  | nil => cases told
  | cons happening rest ih =>
    rw [messages, List.mem_append, Option.mem_toList] at told
    rcases told with now | later
    · obtain ⟨deed, -, told⟩ := Option.bind_eq_some_iff.mp now
      exact isReplyLine_of_message? told
    · exact ih later

/-- What a line that is answered has come from. -/
theorem Turns.lineDue {line : List UInt8} (turns : Turns loop (.line stream line) next) :
    ∃ index kind report rest, loop.watch.items[index]? = some ⟨kind, .monitor stream, report⟩ ∧
      loop.LineDue index stream line rest := by
  generalize taken : Deed.line stream line = deed at turns
  cases turns with
  | line index author kind report bytes rest watched due =>
    obtain ⟨rfl, rfl⟩ := Deed.line.inj taken
    exact ⟨index, kind, report, rest, watched, due⟩
  | monitorConnects listener other =>
    rcases (loop.accept listener).addMonitor_eq other with ⟨watch, added, -⟩ | ⟨refused, -⟩
    · simp [added] at taken
    · simp [refused] at taken
  | _ => cases taken

/-- The line that the loop is in the middle of was begun in an earlier turn, and it has done nothing since. -/
theorem begun_of_readingLine (idle : first.activity = .idle) {index deadline : Nat}
    (reads : (first.after run).activity = .readingLine index deadline) :
    ∃ before later author kind report, run = before ++ .turn :: later ∧
      (first.after before).deed? .turn = some (.lineBegun author) ∧
      (first.after (before ++ [.turn])).deeds later = [] ∧
      (first.after run).watch.items[index]? = some ⟨kind, .monitor author, report⟩ ∧
      deadline = (first.after before).now + lineTimeout := by
  induction run using List.reverseRecOn with
  | nil => simp [after, idle] at reads
  | append_singleton earlier happening ih =>
    rw [after_snoc] at reads ⊢
    rcases (first.after earlier).happens_cases happening with ⟨deed, next, rfl, turned, same, done⟩ | idles
    · rw [same] at reads ⊢
      obtain ⟨author, kind, report, rfl, watched, -, rfl, isDeadline⟩ := (turns_of_turn turned).readingLine reads
      exact ⟨earlier, [], author, kind, report, rfl, done, rfl, watched, isDeadline⟩
    · rw [idles.activity] at reads
      obtain ⟨before, later, author, kind, report, rfl, begun, nothing, watched, isDeadline⟩ := ih reads
      refine ⟨before, later ++ [happening], author, kind, report, by simp, begun, ?_, ?_, isDeadline⟩
      · have noDeed := idles.noDeed
        rw [← List.singleton_append, ← List.append_assoc, after_append] at noDeed
        rw [deeds_snoc, nothing, noDeed]
        rfl
      · rw [idles.watch]
        exact watched

/-- A loop that has nothing to do watches no monitor that has finished. -/
theorem unfinished_of_rest (idle : loop.activity = .idle) (rests : loop.turn = none)
    (watched : stream ∈ monitorsOf loop.watch.items) : (loop.streams stream).finished = false := by
  obtain ⟨entry, member, connection⟩ := mem_monitorsOf.mp watched
  simp only [turn, idle] at rests
  split at rests
  · cases rests
  · split at rests
    · cases rests
    · split at rests
      · rename_i nobody
        have notReady := List.findIdx?_eq_none_iff.mp nobody entry member
        simp only [connection, isReady, Stream.isReady, Bool.or_eq_false_iff] at notReady
        exact notReady.1.2
      · rename_i index found
        obtain ⟨inside, -⟩ := List.findIdx?_eq_some_iff_getElem.mp found
        simp [inside] at rests

/-! ### The law of the streams -/

/-- Why a line is cut off that has no end and is not as long as lines can be. All there is of it is taken. -/
inductive CutShort (first : EventLoop) (before : List Happening) (stream : Nat) (line : List UInt8) : Prop
  /-- The stream is over. -/
  | streamEnds (all : ((first.after before).streams stream).incoming = line)
      (finished : ((first.after before).streams stream).finished = true)
  /-- The loop has been in the middle of the line for a second. -/
  | timeOver (all : ((first.after before).streams stream).incoming = line) (earlier later : List Happening)
      (split : before = earlier ++ .turn :: later)
      (begun : (first.after earlier).deed? .turn = some (.lineBegun stream))
      (nothing : (first.after (earlier ++ [.turn])).deeds later = [])
      (passed : (first.after earlier).now + 1000 ≤ (first.after before).now)

theorem cutShort_of_turn (idle : first.activity = .idle) {before : List Happening} {line : List UInt8}
    (turns : Turns (first.after before) (.line stream line) next) (noEnd : newline ∉ line)
    (short : line.length ≠ 80) : first.CutShort before stream line := by
  obtain ⟨index, kind, report, rest, watched, cut, -, deadline, reads, due⟩ := turns.lineDue
  obtain ⟨whole, -, -, ends⟩ := cutOff_of_cutLine cut
  have notLast : line.getLast? ≠ some newline := fun last => noEnd (List.mem_of_getLast? last)
  have all : ((first.after before).streams stream).incoming = line := by
    obtain rfl : rest = [] := ends.resolve_right (not_or.mpr ⟨short, notLast⟩)
    simpa using whole.symm
  have notWhole : isWholeLine line ≠ true := by
    simp [isWholeLine, maxLine, short, notLast]
  rcases due.resolve_left notWhole with finished | passed
  · exact .streamEnds all finished
  · obtain ⟨earlier, later, author, _, _, split, begun, nothing, found, rfl⟩ := begun_of_readingLine idle reads
    obtain ⟨-, rfl, -⟩ : _ ∧ stream = author ∧ _ := by simpa [watched] using found
    exact .timeOver all earlier later split begun nothing passed

/-- How the stream of a monitor is cut in a run. -/
structure StreamCut (first : EventLoop) (stream : Nat) (run : List Happening) (sent heard : List UInt8) : Prop where
  /-- The lines, put together, are the beginning of the stream. -/
  beginning : (linesOf stream (first.deeds run)).flatten <+: sent
  /-- They are all of it when the client has finished and everything was served: the loop has closed the connection, or
  it has nothing to do. -/
  all : ((first.after run).streams stream).finished = true → ((first.after run).streams stream).reset = false →
    (((first.after run).streams stream).closed = true ∨
      (first.after run).activity = .idle ∧ (first.after run).turn = none) →
    (linesOf stream (first.deeds run)).flatten = sent
  shape : ∀ line ∈ linesOf stream (first.deeds run), line ≠ [] ∧ line.length ≤ 80 ∧ newline ∉ line.dropLast
  short : ∀ before later line next, run = before ++ .turn :: later →
    (first.after before).turn = some (.line stream line, next) → newline ∉ line → line.length ≠ 80 →
      first.CutShort before stream line
  /-- Each line has one answer, in their order. -/
  answered : (first.messages stream run).filterMap Message.line? = linesOf stream (first.deeds run)
  oneLine : ∀ message ∈ first.messages stream run, IsReplyLine message.bytes
  /-- As long as the client is connected and listens, it is told everything. -/
  told : ((first.after run).streams stream).reset = false → ((first.after run).streams stream).deaf = false →
    heard ++ ((first.after run).streams stream).outgoing = ((first.messages stream run).map Message.bytes).flatten
  /-- No client is told anything else. -/
  nothingElse : heard ++ ((first.after run).streams stream).outgoing <+:
    ((first.messages stream run).map Message.bytes).flatten

/-- A connection that is accepted as a monitor is not accepted for commands. -/
theorem notCommand_of_accepted {deeds : List Deed} (once : (newcomers deeds).Nodup)
    (accepted : stream ∈ admissions deeds) : .commandAccepted stream ∉ deeds := by
  intro command
  rw [newcomers, List.Nodup, List.pairwise_filterMap] at once
  have symmetric : Std.Symm fun one other : Deed =>
      ∀ number, one.newcomer? = some number → ∀ same, other.newcomer? = some same → number ≠ same :=
    ⟨fun _ _ apart number mine same yours => (apart same yours number mine).symm⟩
  exact once.forall (mem_admissions.mp accepted) command (by simp) stream rfl stream rfl rfl

theorem kept_start (controller : Controller) (helper : Helper) {listeners : List (Kind × Endpoint)} :
    (start controller helper listeners).Kept stream [] [] [] [] where
  account := ⟨fun _ => rfl, nofun, fun _ _ => rfl, List.prefix_refl _⟩
  closed := nofun
  watched _ := rfl
  unreceived := nofun
  reading := nofun
  served := nofun

/-- A loop with one listener, for monitors. -/
def oneListener : EventLoop := start { settings := {}, bus := {} } {} monitorsOnly

/-- A client subscribes and begins a line, which it does not go on with for a second. Then it sends more than fits a
line, and finishes. -/
def typedSlowly : List Happening :=
  let types (act : ClientAct) : List Happening := [.client 1 act.change]
  let joins : List Happening := [.connects 0 1, .turn]
  let isLate : List Happening := [.turn, .turn, .turn, .passes 1000, .turn]
  [] ++ joins ++ types (.sends [0x49, 0x45, newline, 0x49]) ++ isLate ++ types (.sends (List.replicate 81 0x41)) ++
    types .finishes ++ List.replicate 5 .turn

end EventLoop

end NodeBus
