import NodeBus.Proofs.LoopTurns

/-!
# Connections apart

A connection is apart from the loop when the loop neither watches it nor is about to accept it nor receives its
envelope. Turns leave such a connection alone and keep it apart (`apart_turn`), so that over a run it is changed
by its client only (`streams_after_apart`).
-/
namespace NodeBus

/-- None of the watched connections is this monitor. -/
def WatchSet.Lacks (set : WatchSet Endpoint) (stream : Nat) : Prop :=
  ∀ entry ∈ set.items, entry.connection ≠ .monitor stream

/-- What is removed from a set, and what is left, was in it. -/
theorem WatchSet.mem_of_remove? {α : Type} {set rest : WatchSet α} {index : Nat} {entry : WatchEntry α}
    (removed : WatchSet.remove? set index = some (entry, rest)) :
    entry ∈ set.items ∧ ∀ other ∈ rest.items, other ∈ set.items := by
  obtain ⟨found, left⟩ := WatchSet.remove?_eq_some_iff.mp removed
  refine ⟨List.mem_of_getElem? found, ?_⟩
  intro other member
  rw [left] at member
  exact List.mem_of_mem_eraseIdx member

namespace EventLoop

/-- The loop neither watches the connection nor is about to accept it. -/
structure Unlisted (loop : EventLoop) (stream : Nat) : Prop where
  unwatched : loop.watch.Lacks stream
  unexpected : ∀ listener, stream ∉ loop.waiting listener

/-- The loop has nothing to do with the connection. -/
structure Apart (loop : EventLoop) (stream : Nat) : Prop extends Unlisted loop stream where
  unreceived : ∀ deadline, loop.activity ≠ .receiving stream deadline

/-- What a part of a turn does to the connection and to the watch set: the connection is the same, and is not
newly watched. -/
def LeavesAlone (loop next : EventLoop) (stream : Nat) : Prop :=
  loop.watch.Lacks stream → next.streams stream = loop.streams stream ∧ next.watch.Lacks stream

variable {stream : Nat}

theorem LeavesAlone.trans {loop between next : EventLoop} (first : loop.LeavesAlone between stream)
    (second : between.LeavesAlone next stream) : loop.LeavesAlone next stream := by
  intro unwatched
  obtain ⟨sameFirst, still⟩ := first unwatched
  obtain ⟨sameSecond, lacks⟩ := second still
  exact ⟨sameSecond.trans sameFirst, lacks⟩

theorem setStream_leavesAlone (loop : EventLoop) {other : Nat} (value : Stream) (different : stream ≠ other) :
    loop.LeavesAlone (loop.setStream other value) stream :=
  fun unwatched => ⟨if_neg different, unwatched⟩

theorem dropMonitor_leavesAlone (loop : EventLoop) (index : Nat) :
    loop.LeavesAlone (loop.dropMonitor index) stream := by
  intro unwatched
  unfold dropMonitor
  split
  · rename_i kind target report watch removed
    obtain ⟨member, rest⟩ := WatchSet.mem_of_remove? removed
    have different : stream ≠ target := by
      rintro rfl
      exact unwatched _ member rfl
    exact ⟨if_neg different, fun entry left => unwatched entry (rest entry left)⟩
  · rename_i watch _ removed
    obtain ⟨-, rest⟩ := WatchSet.mem_of_remove? removed
    exact ⟨rfl, fun entry left => unwatched entry (rest entry left)⟩
  · exact ⟨rfl, unwatched⟩

theorem dropMonitors_leaveAlone (loop : EventLoop) (indices : List Nat) :
    loop.LeavesAlone (indices.foldl dropMonitor loop) stream := by
  induction indices generalizing loop with
  | nil => exact fun unwatched => ⟨rfl, unwatched⟩
  | cons index rest ih => exact (loop.dropMonitor_leavesAlone index).trans (ih _)

/-- A notice is heard by watched monitors only. -/
theorem streams_announce (notice : List UInt8) (loop : EventLoop) (index : Nat)
    (entries : List (WatchEntry Endpoint)) (unwatched : ∀ entry ∈ entries, entry.connection ≠ .monitor stream) :
    (announce notice loop index entries).2.streams stream = loop.streams stream := by
  induction entries generalizing loop index with
  | nil => rfl
  | cons entry rest ih =>
    obtain ⟨first, others⟩ := List.forall_mem_cons.mp unwatched
    unfold announce
    split
    · rename_i kind target
      have different : stream ≠ target := by
        rintro rfl
        exact first rfl
      split
      · rw [ih _ _ others]
        exact if_neg different
      · exact ih _ _ others
    · exact ih _ _ others

theorem announce_leavesAlone (notice : List UInt8) (loop : EventLoop) :
    loop.LeavesAlone (announce notice loop 0 loop.watch.items).2 stream := by
  intro unwatched
  refine ⟨streams_announce notice loop 0 loop.watch.items unwatched, ?_⟩
  obtain ⟨streams, announced, -, -⟩ := announce_frame notice loop 0 loop.watch.items
  rw [announced]
  exact unwatched

theorem serviceBus_leavesAlone (loop : EventLoop) : loop.LeavesAlone loop.serviceBus.2 stream := by
  intro unwatched
  unfold serviceBus
  split
  · exact ⟨rfl, unwatched⟩
  · rename_i interrupt controller serviced
    have announced : { loop with controller }.LeavesAlone _ stream :=
      announce_leavesAlone (replyBytes (Monitor.notice interrupt)) _
    exact announced.trans (dropMonitors_leaveAlone _ _) unwatched

/-- Changing what is announced to a monitor does not change who is watched. -/
theorem lacks_modify {set : WatchSet Endpoint} (unwatched : set.Lacks stream) (index : Nat) (report : Bool) :
    (set.modify index fun entry => { entry with report }).Lacks stream := by
  intro entry member
  obtain ⟨place, found⟩ := List.mem_iff_getElem?.mp member
  simp only [WatchSet.modify, List.getElem?_modify] at found
  obtain ⟨earlier, before, rfl⟩ := Option.map_eq_some_iff.mp found
  have lacked := unwatched earlier (List.mem_of_getElem? before)
  split
  · exact lacked
  · exact lacked

theorem answerLine_leavesAlone (loop : EventLoop) (index : Nat) {other : Nat} (line rest : List UInt8)
    (different : stream ≠ other) : loop.LeavesAlone (loop.answerLine index other line rest) stream := by
  intro unwatched
  unfold answerLine
  split
  · exact ⟨rfl, unwatched⟩
  · dsimp only
    have flagged (report : Bool) := lacks_modify unwatched index report
    split
    · exact ⟨if_neg different, flagged _⟩
    · apply (setStream_leavesAlone _ _ different).trans (dropMonitor_leavesAlone _ index)
      exact flagged _

theorem addMonitor_leavesAlone (loop : EventLoop) {other : Nat} (different : stream ≠ other) :
    loop.LeavesAlone (loop.addMonitor other).2 stream := by
  intro unwatched
  unfold addMonitor
  split
  · rename_i watch added
    refine ⟨rfl, ?_⟩
    intro entry member
    rw [Bounded.items_of_push? added, List.mem_append, List.mem_singleton] at member
    rcases member with before | rfl
    · exact unwatched entry before
    · exact fun same => different (Endpoint.monitor.inj same).symm
  · exact ⟨if_neg different, unwatched⟩

theorem serveCommand_leavesAlone (loop : EventLoop) {other : Nat} (different : stream ≠ other) :
    loop.LeavesAlone (loop.serveCommand other) stream := by
  intro unwatched
  unfold serveCommand
  dsimp only
  split
  · exact ⟨if_neg different, unwatched⟩
  · exact ⟨if_neg different, unwatched⟩

/-! ### Turns -/

/-- The connection is the same and still apart. -/
structure KeepsApart (loop next : EventLoop) (stream : Nat) : Prop where
  same : next.streams stream = loop.streams stream
  apart : next.Apart stream

theorem Apart.keeps {loop next : EventLoop} (apart : loop.Apart stream) (alone : loop.LeavesAlone next stream)
    (waiting : next.waiting = loop.waiting) (unreceived : ∀ deadline, next.activity ≠ .receiving stream deadline) :
    loop.KeepsApart next stream := by
  obtain ⟨same, lacks⟩ := alone apart.unwatched
  refine ⟨same, ⟨lacks, ?_⟩, unreceived⟩
  rw [waiting]
  exact apart.unexpected

theorem Apart.different {loop : EventLoop} (apart : loop.Apart stream) {index other : Nat} {kind : Kind}
    {report : Bool} (watched : loop.watch.items[index]? = some ⟨kind, .monitor other, report⟩) :
    stream ≠ other := by
  rintro rfl
  exact apart.unwatched _ (List.mem_of_getElem? watched) rfl

theorem Apart.readLine {loop next : EventLoop} (apart : loop.Apart stream) {index deadline : Nat} {deed : Deed}
    (read : loop.readLine index deadline = some (deed, next)) : loop.KeepsApart next stream := by
  unfold EventLoop.readLine at read
  split at read
  · rename_i kind other report watched
    have different := apart.different watched
    dsimp only at read
    split at read
    · obtain ⟨-, rfl⟩ := Prod.mk.inj (Option.some.inj read)
      obtain ⟨watch, streams, answered, -⟩ :=
        answerLine_frame { loop with activity := .idle } index other _ _ _ watched
      apply apart.keeps
      · exact answerLine_leavesAlone { loop with activity := .idle } index _ _ different
      · rw [answered]
      · rw [answered]
        exact nofun
    · split at read
      · obtain ⟨-, rfl⟩ := Prod.mk.inj (Option.some.inj read)
        obtain ⟨watch, streams, dropped, -⟩ := dropMonitor_frame { loop with activity := .idle } index
        apply apart.keeps
        · exact dropMonitor_leavesAlone { loop with activity := .idle } index
        · rw [dropped]
        · rw [dropped]
          exact nofun
      · cases read
  · obtain ⟨-, rfl⟩ := Prod.mk.inj (Option.some.inj read)
    exact ⟨rfl, ⟨apart.unwatched, apart.unexpected⟩, nofun⟩

theorem Apart.receive {loop next : EventLoop} (apart : loop.Apart stream) {other deadline : Nat} {deed : Deed}
    (receives : loop.activity = .receiving other deadline)
    (received : loop.receive other deadline = some (deed, next)) : loop.KeepsApart next stream := by
  have different : stream ≠ other := by
    rintro rfl
    exact apart.unreceived deadline receives
  unfold EventLoop.receive at received
  dsimp only at received
  split at received
  · obtain ⟨-, rfl⟩ := Prod.mk.inj (Option.some.inj received)
    obtain ⟨streams, served⟩ := serveCommand_frame { loop with activity := .idle } other
    apply apart.keeps
    · exact serveCommand_leavesAlone { loop with activity := .idle } different
    · rw [served]
    · rw [served]
      exact nofun
  · cases received

/-- The connection that is accepted is another one. -/
theorem Apart.ne_head {loop : EventLoop} (apart : loop.Apart stream) {listener other : Nat}
    (head : (loop.waiting listener).head? = some other) : stream ≠ other := by
  rintro rfl
  exact apart.unexpected listener (List.mem_of_mem_head? head)

theorem Apart.accept {loop : EventLoop} (apart : loop.Apart stream) (listener : Nat) :
    (loop.accept listener).Apart stream := by
  refine ⟨⟨apart.unwatched, ?_⟩, apart.unreceived⟩
  intro other
  unfold EventLoop.accept
  dsimp only
  split
  · exact fun member => apart.unexpected listener (List.mem_of_mem_tail member)
  · exact apart.unexpected other

theorem Apart.takeUp {loop : EventLoop} (apart : loop.Apart stream) (index : Nat) (connection : Endpoint) :
    loop.KeepsApart (loop.takeUp index connection).2 stream := by
  have unreceived : ∀ deadline, loop.activity ≠ .receiving stream deadline := apart.unreceived
  cases connection with
  | bus =>
    simp only [EventLoop.takeUp]
    split
    · exact ⟨rfl, ⟨apart.unwatched, apart.unexpected⟩, unreceived⟩
    · obtain ⟨-, watch, streams, serviced, -⟩ := loop.serviceBus_frame
      apply apart.keeps loop.serviceBus_leavesAlone
      · rw [serviced]
      · rw [serviced]
        exact unreceived
  | commandListener listener =>
    simp only [EventLoop.takeUp]
    split
    · exact ⟨rfl, apart⟩
    · rename_i other head
      obtain ⟨⟨unwatched, unexpected⟩, -⟩ := apart.accept listener
      refine ⟨rfl, ⟨unwatched, unexpected⟩, ?_⟩
      intro deadline same
      exact apart.ne_head head (Activity.receiving.inj same).1.symm
  | monitorListener listener =>
    simp only [EventLoop.takeUp]
    split
    · exact ⟨rfl, apart⟩
    · rename_i other head
      obtain ⟨watch, streams, added, -⟩ := (loop.accept listener).addMonitor_frame other
      have keeps : (loop.accept listener).KeepsApart ((loop.accept listener).addMonitor other).2 stream := by
        apply (apart.accept listener).keeps ((loop.accept listener).addMonitor_leavesAlone (apart.ne_head head))
        · rw [added]
        · rw [added]
          exact unreceived
      exact ⟨keeps.same, keeps.apart⟩
  | monitor other =>
    simp only [EventLoop.takeUp]
    split
    · obtain ⟨watch, streams, dropped, -⟩ := loop.dropMonitor_frame index
      apply apart.keeps (loop.dropMonitor_leavesAlone index)
      · rw [dropped]
      · rw [dropped]
        exact unreceived
    · refine ⟨rfl, ⟨apart.unwatched, apart.unexpected⟩, ?_⟩
      intro deadline receives
      cases receives

/-- What a turn preserves. -/
theorem apart_turn {loop next : EventLoop} {deed : Deed} (apart : loop.Apart stream)
    (turned : loop.turn = some (deed, next)) : loop.KeepsApart next stream := by
  unfold turn at turned
  split at turned
  case h_1 => cases turned
  case h_2 => exact apart.readLine turned
  case h_3 other deadline receives => exact apart.receive receives turned
  case h_4 =>
    split at turned
    · obtain ⟨-, rfl⟩ := Prod.mk.inj (Option.some.inj turned)
      exact ⟨rfl, ⟨apart.unwatched, apart.unexpected⟩, nofun⟩
    · split at turned
      · obtain ⟨-, rfl⟩ := Prod.mk.inj (Option.some.inj turned)
        exact ⟨rfl, ⟨apart.unwatched, apart.unexpected⟩, apart.unreceived⟩
      · split at turned
        · cases turned
        · rename_i index ready
          obtain ⟨entry, -, taken⟩ := Option.map_eq_some_iff.mp turned
          have keeps := apart.takeUp index entry.connection
          rwa [taken] at keeps

/-! ### Runs -/

/-- A connection after what its client did to it. -/
def clientChanges (stream : Nat) (connection : Stream) : List Happening → Stream
  | [] => connection
  | .client other change :: rest =>
    clientChanges stream (if other = stream then change connection else connection) rest
  | _ :: rest => clientChanges stream connection rest

/-- What comes from outside changes a connection only if it comes from its client. -/
theorem streams_happens (loop : EventLoop) {happening : Happening} (outside : happening ≠ .turn)
    (rest : List Happening) :
    clientChanges stream (loop.streams stream) (happening :: rest) =
      clientChanges stream ((loop.happens happening).streams stream) rest := by
  cases happening with
  | turn => exact absurd rfl outside
  | client other change =>
    have changed : (loop.happens (.client other change)).streams stream =
        if other = stream then change (loop.streams stream) else loop.streams stream := by
      simp only [happens, clientDoes, setStream, eq_comm]
      split
      · rename_i same
        rw [same]
      · rfl
    rw [clientChanges, changed]
  | _ => rfl

/-- What comes from outside leaves a connection unlisted that does not connect. -/
theorem Unlisted.happens {loop : EventLoop} (unlisted : loop.Unlisted stream) {happening : Happening}
    (outside : happening ≠ .turn) (unconnected : ∀ listener, happening ≠ .connects listener stream) :
    (loop.happens happening).Unlisted stream := by
  cases happening with
  | turn => exact absurd rfl outside
  | connects listener other =>
    refine ⟨unlisted.unwatched, ?_⟩
    intro place
    have different : stream ≠ other := by
      rintro rfl
      exact unconnected listener rfl
    simp only [EventLoop.happens, connect]
    split
    · simp [different, unlisted.unexpected]
    · exact unlisted.unexpected place
  | _ => exact ⟨unlisted.unwatched, unlisted.unexpected⟩

theorem activity_happens (loop : EventLoop) {happening : Happening} (outside : happening ≠ .turn) :
    (loop.happens happening).activity = loop.activity := by
  cases happening with
  | turn => exact absurd rfl outside
  | _ => rfl

/-- **A connection apart** is changed by its client only, as long as it does not connect again. -/
theorem streams_after_apart {loop : EventLoop} (apart : loop.Apart stream) (happenings : List Happening)
    (unconnected : ∀ listener, .connects listener stream ∉ happenings) :
    (loop.after happenings).streams stream = clientChanges stream (loop.streams stream) happenings := by
  induction happenings generalizing loop with
  | nil => rfl
  | cons happening rest ih =>
    have later : ∀ listener, .connects listener stream ∉ rest :=
      fun listener member => unconnected listener (List.mem_cons_of_mem _ member)
    by_cases isTurn : happening = .turn
    · subst isTurn
      change ((loop.happens .turn).after rest).streams stream = clientChanges stream (loop.streams stream) rest
      cases turned : loop.turn with
      | none =>
        have same : loop.happens .turn = loop := by simp [EventLoop.happens, turned]
        rw [same]
        exact ih apart later
      | some pair =>
        obtain ⟨same, stillApart⟩ := apart_turn apart turned
        have next : loop.happens .turn = pair.2 := by simp [EventLoop.happens, turned]
        rw [next, ih stillApart later, same]
    · have unlisted : (loop.happens happening).Unlisted stream := by
        apply apart.toUnlisted.happens isTurn
        rintro listener rfl
        exact unconnected listener List.mem_cons_self
      have stillApart : (loop.happens happening).Apart stream := by
        refine ⟨unlisted, ?_⟩
        rw [loop.activity_happens isTurn]
        exact apart.unreceived
      rw [loop.streams_happens isTurn rest]
      exact ih stillApart later

end EventLoop

end NodeBus
