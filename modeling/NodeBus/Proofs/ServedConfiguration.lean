import NodeBus.Proofs.SocketBinding
import NodeBus.Proofs.WatchedMonitors

/-!
# An accepted configuration can be served

What the check of a configuration promises (`Configuration.check_eq_ok_iff`) is what those rely on who serve it: the
socket mode can be read, the address that is set is the one that is bound, there is a way for clients to send commands,
and every listening socket finds room among the watched connections (`Configuration.accepted_served`).
-/
namespace NodeBus

/-! ### What the check promises -/

namespace Configuration

theorem mode_le_of_mode? {text : String} {mode : Nat} (isMode : mode? text = some mode) : mode ≤ 0o777 := by
  simp only [mode?, Option.ite_none_right_eq_some, Option.some.injEq] at isMode
  obtain ⟨⟨-, -, small⟩, same⟩ := isMode
  rwa [← same]

/-- The check accepts exactly the configurations whose values fit. -/
theorem check_eq_ok_iff {config : Configuration} :
    config.check = .ok () ↔
      config.maxNodeAddress ≤ NodeBus.maxNodeAddress ∧ (∃ mode, mode? config.socketMode = some mode) ∧
        (config.socket ≠ none ∨ config.service ≠ none) ∧
        ∀ text, config.bindAddress = some text → ∃ address, IpAddress.parse? text = some address := by
  unfold check
  split
  · rename_i tooHigh
    simp [tooHigh]
  · rename_i fits
    split
    · rename_i unreadable
      simp [unreadable]
    · rename_i readable
      obtain ⟨mode, isMode⟩ := Option.ne_none_iff_exists'.mp readable
      split
      · rename_i unreachable
        simp [unreachable]
      · rename_i reachable
        have commands : config.socket ≠ none ∨ config.service ≠ none := not_and_or.mp reachable
        cases set : config.bindAddress with
        | none => simp [isMode, commands, UInt8.not_lt.mp fits]
        | some text =>
          cases read : IpAddress.parse? text <;> simp [read, isMode, commands, UInt8.not_lt.mp fits]

theorem check_of_parse {text : String} {config : Configuration} (accepted : parse text = .ok config) :
    config.check = .ok () := by
  unfold parse at accepted
  split at accepted
  · cases accepted
  · split at accepted
    · cases accepted
    · rename_i checked
      obtain rfl := Except.ok.inj accepted
      exact checked

end Configuration

/-! ### Listening sockets among the watched connections -/

/-- Are commands sent to sockets of this kind? -/
def Kind.takesCommands : Kind → Bool
  | .localCommand | .inet4Command | .inet6Command => true
  | _ => false

namespace Listeners

/-- The listening sockets as the event loop is given them, by number. -/
def entries (listeners : Listeners) : List (Kind × Endpoint) :=
  listeners.sockets.zipIdx.map fun (listener, number) =>
    (listener.kind, if listener.kind.takesCommands then .commandListener number else .monitorListener number)

/-- The kind of a listening socket says the family of its address. -/
def FamilyFits (listener : Listener) : Prop :=
  match listener.address with
  | none => listener.kind = .localCommand
  | some socket =>
    if socket.address.isV4 then listener.kind = .inet4Command ∨ listener.kind = .inet4Text
    else listener.kind = .inet6Command ∨ listener.kind = .inet6Text

/-- The machine's own socket, if one is set. -/
def localSockets (config : Configuration) : List Listener :=
  match config.socket with
  | none => []
  | some _ => [{ kind := .localCommand }]

/-- The machine's own socket is set up, if one is set. -/
def SocketReady (host : Host) (config : Configuration) (after : Host) : Prop :=
  match config.socket with
  | none => host = after
  | some path => SetUp host config path after

/-- Everything that is set was bound: the machine's own socket, and each service on at least one of its addresses. -/
structure AllBound (host : Host) (config : Configuration) (between : Host) : Prop where
  socket : SocketReady host config between
  commands : IsBound config.service (commandTries between config).1
  texts : IsBound config.textService (textTries between config).1

/-- Opening the sockets succeeds exactly if everything that is set was bound. What is listened on then is the
machine's own socket, and behind it those of the services. -/
theorem bind_eq_ok_iff {host : Host} {config : Configuration} {listeners : Listeners} :
    (bind host config).1 = .ok listeners ↔
      ∃ between, AllBound host config between ∧ listeners =
        { sockets := localSockets config ++ serviceSockets between config, socketFile := config.socket } := by
  have goes := binds host config
  generalize (bind host config).1 = result, (bind host config).2 = after at goes
  constructor
  · rintro rfl
    cases goes with
    | withoutSocket _ _ noSocket binds =>
      cases binds with
      | done commands texts =>
        have ready : SocketReady host config host := by simp [SocketReady, noSocket]
        exact ⟨host, ⟨ready, commands, texts⟩, by simp [localSockets, noSocket]⟩
    | withSocket path between _ _ socket setUp binds =>
      cases binds with
      | done commands texts =>
        have ready : SocketReady host config between := by simpa [SocketReady, socket] using setUp
        exact ⟨between, ⟨ready, commands, texts⟩, by simp [localSockets, socket, Listeners.withSocket]⟩
  · rintro ⟨between, ⟨ready, commands, texts⟩, rfl⟩
    cases goes with
    | socketFails path error after socket fails =>
      have setUp : SetUp host config path between := by simpa [SocketReady, socket] using ready
      rw [bindUnix_eq_ok_iff.mpr setUp] at fails
      cases fails
    | withoutSocket _ _ noSocket binds =>
      obtain rfl : host = between := by simpa [SocketReady, noSocket] using ready
      cases binds with
      | commandsFail error unbound => exact absurd commands unbound
      | textsFail error _ unbound => exact absurd texts unbound
      | done => simp [localSockets, noSocket]
    | withSocket path other _ _ socket setUp binds =>
      have alsoSetUp : SetUp host config path between := by simpa [SocketReady, socket] using ready
      have same := bindUnix_eq_ok_iff.mpr setUp
      rw [bindUnix_eq_ok_iff.mpr alsoSetUp] at same
      obtain rfl : between = other := (Prod.mk.inj same).2
      cases binds with
      | commandsFail error unbound => exact absurd commands unbound
      | textsFail error _ unbound => exact absurd texts unbound
      | done => simp [localSockets, socket, Listeners.withSocket]

theorem familyFits_of_listening {v4 v6 : Kind} (isV4 : v4 = .inet4Command ∨ v4 = .inet4Text)
    (isV6 : v6 = .inet6Command ∨ v6 = .inet6Text) (attempts : List Attempt) :
    ∀ listener ∈ listening v4 v6 attempts, FamilyFits listener := by
  intro listener member
  obtain ⟨socket, -, rfl⟩ := List.mem_map.mp member
  by_cases family : socket.address.isV4 = true
  · simpa [FamilyFits, family] using isV4
  · simpa [FamilyFits, family] using isV6

theorem familyFits_of_opened (config : Configuration) (between : Host) :
    ∀ listener ∈ localSockets config ++ serviceSockets between config, FamilyFits listener := by
  intro listener member
  rw [List.mem_append, serviceSockets, List.mem_append] at member
  rcases member with own | command | text
  · unfold localSockets at own
    split at own
    · cases own
    · obtain rfl := List.mem_singleton.mp own
      rfl
  · exact familyFits_of_listening (.inl rfl) (.inl rfl) _ listener command
  · exact familyFits_of_listening (.inr rfl) (.inr rfl) _ listener text

/-- A service that is set and bound is listened on. -/
theorem exists_listening {port : Option UInt16} {attempts : List Attempt} (v4 v6 : Kind) (set : port ≠ none)
    (bound : IsBound port attempts) :
    ∃ listener ∈ listening v4 v6 attempts, listener.kind = v4 ∨ listener.kind = v6 := by
  obtain ⟨attempt, member, succeeded⟩ := bound set
  have listed : attempt.1 ∈ boundOf attempts := List.mem_filterMap.mpr ⟨attempt, member, by simp [succeeded]⟩
  refine ⟨_, List.mem_map.mpr ⟨attempt.1, listed, rfl⟩, ?_⟩
  by_cases family : attempt.1.address.isV4 = true
  · simp [family]
  · simp [family]

theorem length_bindAddresses_le (config : Configuration) (port : UInt16) :
    (config.bindAddresses port).length ≤ 2 := by
  unfold Configuration.bindAddresses
  split <;> simp

theorem length_listening_le (host : Host) (config : Configuration) (port : Option UInt16) (v4 v6 : Kind) :
    (listening v4 v6 (tries host config port).1).length ≤ 2 := by
  have fewer : (listening v4 v6 (tries host config port).1).length ≤ (tries host config port).1.length := by
    rw [listening, List.length_map]
    exact List.length_filterMap_le _ _
  refine fewer.trans ?_
  cases port with
  | none => exact Nat.zero_le 2
  | some port =>
    have tried := congrArg List.length (map_fst_bindAll host (config.bindAddresses port))
    rw [List.length_map] at tried
    rw [tries, tried]
    exact length_bindAddresses_le config port

/-- There are never more than five listening sockets. -/
theorem length_opened_le (config : Configuration) (between : Host) :
    (localSockets config ++ serviceSockets between config).length ≤ 5 := by
  have own : (localSockets config).length ≤ 1 := by
    unfold localSockets
    split <;> simp
  have commands : (listening .inet4Command .inet6Command (commandTries between config).1).length ≤ 2 :=
    length_listening_le _ _ _ _ _
  have texts : (listening .inet4Text .inet6Text (textTries between config).1).length ≤ 2 :=
    length_listening_le _ _ _ _ _
  rw [serviceSockets, List.length_append, List.length_append]
  omega

/-- What the sockets are once they are opened. -/
structure Opened (config : Configuration) (between : Host) (listeners : Listeners) : Prop where
  /-- The machine's own socket comes first, then those for commands, then those for text monitors. -/
  sockets : listeners.sockets = localSockets config ++
    listening .inet4Command .inet6Command (commandTries between config).1 ++
    listening .inet4Text .inet6Text (textTries between config).1
  families : ∀ listener ∈ listeners.sockets, FamilyFits listener
  command : ∃ listener ∈ listeners.sockets, listener.kind.takesCommands = true
  /-- An event loop that starts with them watches the bus and all of them. -/
  watched : ∀ controller helper, (EventLoop.start controller helper listeners.entries).watch.items =
    permanent listeners.entries
  socketFile : listeners.socketFile = config.socket

theorem opened_of_allBound {host between : Host} {config : Configuration} (all : AllBound host config between)
    (reachable : config.socket ≠ none ∨ config.service ≠ none) :
    Opened config between
      { sockets := localSockets config ++ serviceSockets between config, socketFile := config.socket } where
  sockets := by rw [serviceSockets, List.append_assoc]
  families := familyFits_of_opened config between
  command := by
    rcases reachable with own | service
    · obtain ⟨path, socket⟩ := Option.ne_none_iff_exists'.mp own
      exact ⟨{ kind := .localCommand }, by simp [localSockets, socket], rfl⟩
    · obtain ⟨listener, member, kind⟩ := exists_listening .inet4Command .inet6Command service all.commands
      refine ⟨listener, by simp [serviceSockets, member], ?_⟩
      rcases kind with v4 | v6
      · rw [v4]
        rfl
      · rw [v6]
        rfl
  watched := by
    intro controller helper
    have few := length_opened_le config between
    apply EventLoop.watch_start
    simp only [entries, List.length_map, List.length_zipIdx, watchCapacity]
    omega
  socketFile := rfl

end Listeners

/-! ### Accepted configurations -/

/-- What an accepted configuration says can be served. -/
structure Configuration.CanBeServed (config : Configuration) : Prop where
  mode : ∃ mode, mode? config.socketMode = some mode ∧ mode ≤ 0o777
  nodes : config.maxNodeAddress ≤ 254
  /-- The address that is set is the only one. -/
  oneAddress : ∀ text, config.bindAddress = some text →
    ∃ address, IpAddress.parse? text = some address ∧ ∀ port, config.bindAddresses port = [{ address, port }]
  everyAddress : config.bindAddress = none →
    ∀ port, config.bindAddresses port = [{ address := .anyV4, port }, { address := .anyV6, port }]
  /-- Each address of a service is tried, in order. -/
  tried : ∀ host port, (Listeners.tries host config (some port)).1.map Prod.fst = config.bindAddresses port
  /-- Opening the sockets succeeds exactly if everything that is set was bound. -/
  opens : ∀ host, (∃ listeners, (Listeners.bind host config).1 = .ok listeners) ↔
    ∃ between, Listeners.AllBound host config between
  opened : ∀ host listeners, (Listeners.bind host config).1 = .ok listeners →
    ∃ between, Listeners.AllBound host config between ∧ Listeners.Opened config between listeners

/-- **An accepted configuration can be served as written.** -/
theorem Configuration.accepted_served {text : String} {config : Configuration} (accepted : parse text = .ok config) :
    config.CanBeServed := by
  obtain ⟨nodes, ⟨mode, isMode⟩, reachable, addresses⟩ := check_eq_ok_iff.mp (check_of_parse accepted)
  constructor
  case mode => exact ⟨mode, isMode, mode_le_of_mode? isMode⟩
  case nodes => exact nodes
  case oneAddress =>
    intro text set
    obtain ⟨address, read⟩ := addresses text set
    exact ⟨address, read, fun port => by simp [bindAddresses, set, read]⟩
  case everyAddress =>
    intro unset port
    simp [bindAddresses, unset]
  case tried => exact fun host port => Listeners.map_fst_bindAll host (config.bindAddresses port)
  case opens =>
    intro host
    constructor
    · rintro ⟨listeners, opens⟩
      obtain ⟨between, all, -⟩ := Listeners.bind_eq_ok_iff.mp opens
      exact ⟨between, all⟩
    · rintro ⟨between, all⟩
      exact ⟨_, Listeners.bind_eq_ok_iff.mpr ⟨between, all, rfl⟩⟩
  case opened =>
    intro host listeners opens
    obtain ⟨between, all, rfl⟩ := Listeners.bind_eq_ok_iff.mp opens
    exact ⟨between, all, Listeners.opened_of_allBound all reachable⟩

/-- All that can be listened on is set, and no address. -/
def everythingSet : String :=
  "socket = \"bus.sock\"\nsocket_mode = \"+600\"\nservice = 1128\ntextservice = 1129\nmax_node_addr = 254"

/-- And an address is. -/
def withAddress (text : String) : String := everythingSet ++ "\nbindaddr = \"" ++ text ++ "\""

/-- Where the addresses of the older family stand in the way of those of the newer one, the sockets are opened
nevertheless, and all of them are watched behind the bus. With an address of either family, the sockets are those of
that address. -/
theorem everythingSet_served :
    let config : Configuration :=
      { socket := some "bus.sock", socketMode := "+600", service := some 1128, textService := some 1129 }
    let older : Configuration := { config with bindAddress := some "192.0.2.17" }
    let newer : Configuration := { config with bindAddress := some "2001:db8::192.0.2.17" }
    let olderAddress : IpAddress := .v4 ⟨192, 0, 2, 17⟩
    let newerAddress : IpAddress := .v6 #v[0x2001, 0x0db8, 0, 0, 0, 0, 0xC000, 0x0211]
    (Configuration.parse everythingSet = .ok config ∧ config.CanBeServed ∧
      (Listeners.tries {} config (some 1128)).1.map (·.2.isOk) = [true, false] ∧
      ∃ listeners, (Listeners.bind {} config).1 = .ok listeners ∧
        listeners.sockets.map (·.kind) = [.localCommand, .inet4Command, .inet4Text] ∧
        (EventLoop.start { settings := config.busSettings, bus := {} } {} listeners.entries).watch.items.map
          (·.connection) = [.bus, .commandListener 0, .commandListener 1, .monitorListener 2]) ∧
      (Configuration.parse (withAddress "192.0.2.17") = .ok older ∧ older.CanBeServed ∧
        older.bindAddresses 1128 = [⟨olderAddress, 1128⟩] ∧
        (Listeners.bind {} older).1 = .ok {
          sockets := [{ kind := .localCommand }, { kind := .inet4Command, address := some ⟨olderAddress, 1128⟩ },
            { kind := .inet4Text, address := some ⟨olderAddress, 1129⟩ }]
          socketFile := some "bus.sock" }) ∧
      Configuration.parse (withAddress "2001:db8::192.0.2.17") = .ok newer ∧ newer.CanBeServed ∧
        newer.bindAddresses 1128 = [⟨newerAddress, 1128⟩] ∧
        (Listeners.bind {} newer).1 = .ok {
          sockets := [{ kind := .localCommand }, { kind := .inet6Command, address := some ⟨newerAddress, 1128⟩ },
            { kind := .inet6Text, address := some ⟨newerAddress, 1129⟩ }]
          socketFile := some "bus.sock" } := by
  intro config older newer olderAddress newerAddress
  have accepted : Configuration.parse everythingSet = .ok config := by decide +kernel
  have olderAccepted : Configuration.parse (withAddress "192.0.2.17") = .ok older := by decide +kernel
  have newerAccepted : Configuration.parse (withAddress "2001:db8::192.0.2.17") = .ok newer := by decide +kernel
  refine ⟨⟨accepted, Configuration.accepted_served accepted, by decide +kernel, ?_⟩,
    ⟨olderAccepted, Configuration.accepted_served olderAccepted, by decide +kernel, by decide +kernel⟩,
    newerAccepted, Configuration.accepted_served newerAccepted, by decide +kernel, by decide +kernel⟩
  exact ⟨{ sockets := [{ kind := .localCommand }, { kind := .inet4Command, address := some ⟨.anyV4, 1128⟩ },
      { kind := .inet4Text, address := some ⟨.anyV4, 1129⟩ }], socketFile := some "bus.sock" },
    by decide +kernel, by decide +kernel, by decide +kernel⟩

end NodeBus
