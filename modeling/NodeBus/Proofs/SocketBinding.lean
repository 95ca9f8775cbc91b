import Mathlib
import NodeBus.Startup

/-!
# Binding sockets

Everything that opening the sockets can come to. `Listeners.SetsUp` lists where setting up the machine's own socket
can stop, with the host as it is left; `Listeners.BindsServices` and `Listeners.Binds` do so for the services and for
the whole. How binding a port went on each of its addresses is one list (`Host.bindAll`), from which the rest is read.
-/
namespace NodeBus

/-- Binds each of some addresses in turn, and tells how each went. -/
def Host.bindAll (host : Host) : List SocketAddress → List (SocketAddress × Except SystemError Unit) × Host
  | [] => ([], host)
  | socket :: rest =>
    let (outcome, host) := host.bindTcp socket
    let (others, host) := bindAll host rest
    ((socket, outcome) :: others, host)

namespace Listeners

/-- How binding an address went. -/
abbrev Attempt := SocketAddress × Except SystemError Unit

/-- The addresses that were bound, in order. -/
def boundOf (attempts : List Attempt) : List SocketAddress :=
  attempts.filterMap fun attempt => if attempt.2.isOk then some attempt.1 else none

/-- The last address that was not bound, and why. -/
def failureOf : List Attempt → Option (SocketAddress × SystemError)
  | [] => none
  | (_, .ok ()) :: rest => failureOf rest
  | (socket, .error error) :: rest => (failureOf rest).or (some (socket, error))

theorem boundOf_eq_nil_iff {attempts : List Attempt} :
    boundOf attempts = [] ↔ ∀ attempt ∈ attempts, attempt.2.isOk = false := by
  simp [boundOf, List.filterMap_eq_nil_iff]

theorem bindEach_eq (host : Host) (sockets : List SocketAddress) :
    bindEach host sockets =
      (boundOf (host.bindAll sockets).1, failureOf (host.bindAll sockets).1, (host.bindAll sockets).2) := by
  induction sockets generalizing host with
  | nil => rfl
  | cons socket rest ih =>
    unfold bindEach Host.bindAll
    rcases host.bindTcp socket with ⟨error | _, after⟩
    · simp [ih after, boundOf, failureOf, Except.isOk, Except.toBool]
    · simp [ih after, boundOf, failureOf, Except.isOk, Except.toBool]

/-- When every address failed, there is a last failure. -/
theorem failureOf_isSome {attempts : List Attempt} (some : attempts ≠ [])
    (none : ∀ attempt ∈ attempts, attempt.2.isOk = false) : (failureOf attempts).isSome = true := by
  cases attempts with
  | nil => exact absurd rfl some
  | cons attempt rest =>
    obtain ⟨socket, error | _⟩ := attempt
    · simp [failureOf]
    · simpa [Except.isOk, Except.toBool] using none _ List.mem_cons_self

/-- Each address is tried, in order. -/
theorem map_fst_bindAll (host : Host) (sockets : List SocketAddress) :
    (host.bindAll sockets).1.map Prod.fst = sockets := by
  induction sockets generalizing host with
  | nil => rfl
  | cons socket rest ih => simp [Host.bindAll, ih]

theorem bindAll_ne_nil (host : Host) {sockets : List SocketAddress} (some : sockets ≠ []) :
    (host.bindAll sockets).1 ≠ [] := by
  intro nothing
  have tried := map_fst_bindAll host sockets
  rw [nothing] at tried
  exact some tried.symm

theorem bindAddresses_ne_nil (config : Configuration) (port : UInt16) : config.bindAddresses port ≠ [] := by
  unfold Configuration.bindAddresses
  split <;> simp

/-! ### Services -/

/-- How binding the port of a service goes on each of its addresses, and the host afterwards. Nothing is tried if the
service is not set. -/
def tries (host : Host) (config : Configuration) : Option UInt16 → List Attempt × Host
  | none => ([], host)
  | some port => host.bindAll (config.bindAddresses port)

/-- A service is bound on at least one of its addresses, if it is set. -/
def IsBound (port : Option UInt16) (attempts : List Attempt) : Prop :=
  port ≠ none → ∃ attempt ∈ attempts, attempt.2.isOk = true

/-- The listening sockets of a service: those bound, each of the kind for the family of its address. -/
def listening (v4 v6 : Kind) (attempts : List Attempt) : List Listener :=
  (boundOf attempts).map fun socket =>
    { kind := if socket.address.isV4 then v4 else v6, address := some socket }

theorem bindService_of_bound {host : Host} {config : Configuration} {port : Option UInt16} (what : String)
    (v4 v6 : Kind) (bound : IsBound port (tries host config port).1) :
    bindService host config port what v4 v6 =
      (.ok (listening v4 v6 (tries host config port).1), (tries host config port).2) := by
  cases port with
  | none => rfl
  | some port =>
    obtain ⟨attempt, member, succeeded⟩ := bound (Option.some_ne_none port)
    have something : boundOf (host.bindAll (config.bindAddresses port)).1 ≠ [] := by
      intro nothing
      have failed := boundOf_eq_nil_iff.mp nothing attempt member
      rw [succeeded] at failed
      cases failed
    obtain ⟨first, others, listed⟩ := List.exists_cons_of_ne_nil something
    simp only [bindService, bindTcp, bindEach_eq, tries, listening, listed]

theorem bindService_of_unbound {host : Host} {config : Configuration} {port : Option UInt16} (what : String)
    (v4 v6 : Kind) (unbound : ¬ IsBound port (tries host config port).1) :
    ∃ error, bindService host config port what v4 v6 = (.error error, (tries host config port).2) := by
  cases port with
  | none => exact absurd (fun unset => absurd rfl unset) unbound
  | some port =>
    have none : ∀ attempt ∈ (host.bindAll (config.bindAddresses port)).1, attempt.2.isOk = false := by
      intro attempt member
      by_contra succeeded
      exact unbound fun _ => ⟨attempt, member, by simpa using succeeded⟩
    have tried := bindAll_ne_nil host (bindAddresses_ne_nil config port)
    obtain ⟨⟨socket, error⟩, failed⟩ := Option.isSome_iff_exists.mp (failureOf_isSome tried none)
    refine ⟨.bind (what ++ " on " ++ socket.text) error, ?_⟩
    simp [bindService, bindTcp, bindEach_eq, tries, boundOf_eq_nil_iff.mpr none, failed]

/-- How binding the service for commands goes. -/
def commandTries (host : Host) (config : Configuration) : List Attempt × Host := tries host config config.service

/-- How binding the service for text monitors goes behind it. -/
def textTries (host : Host) (config : Configuration) : List Attempt × Host :=
  tries (commandTries host config).2 config config.textService

/-- The listening sockets of both services. -/
def serviceSockets (host : Host) (config : Configuration) : List Listener :=
  listening .inet4Command .inet6Command (commandTries host config).1 ++
    listening .inet4Text .inet6Text (textTries host config).1

/-- The ways binding the services can go behind what is bound already. -/
inductive BindsServices (host : Host) (config : Configuration) (listeners : Listeners) :
    Except StartupError Listeners → Host → Prop
  | commandsFail (error : StartupError) (unbound : ¬ IsBound config.service (commandTries host config).1) :
      BindsServices host config listeners (.error error) (listeners.drop (commandTries host config).2)
  | textsFail (error : StartupError) (commands : IsBound config.service (commandTries host config).1)
      (unbound : ¬ IsBound config.textService (textTries host config).1) :
      BindsServices host config listeners (.error error) (listeners.drop (textTries host config).2)
  | done (commands : IsBound config.service (commandTries host config).1)
      (texts : IsBound config.textService (textTries host config).1) :
      BindsServices host config listeners
        (.ok { listeners with sockets := listeners.sockets ++ serviceSockets host config }) (textTries host config).2

theorem bindsServices (host : Host) (config : Configuration) (listeners : Listeners) :
    BindsServices host config listeners (bindServices host config listeners).1
      (bindServices host config listeners).2 := by
  by_cases commands : IsBound config.service (commandTries host config).1
  · have commandsBound : bindService host config config.service "command service" .inet4Command .inet6Command =
        (.ok (listening .inet4Command .inet6Command (commandTries host config).1), (commandTries host config).2) :=
      bindService_of_bound _ _ _ commands
    by_cases texts : IsBound config.textService (textTries host config).1
    · have textsBound : bindService (commandTries host config).2 config config.textService "text service"
          .inet4Text .inet6Text =
            (.ok (listening .inet4Text .inet6Text (textTries host config).1), (textTries host config).2) :=
        bindService_of_bound _ _ _ texts
      simp only [bindServices, commandsBound, textsBound, List.append_assoc]
      exact .done commands texts
    · obtain ⟨error, failed⟩ : ∃ error, bindService (commandTries host config).2 config config.textService
          "text service" .inet4Text .inet6Text = (.error error, (textTries host config).2) :=
        bindService_of_unbound _ _ _ texts
      simp only [bindServices, commandsBound, failed]
      exact .textsFail error commands texts
  · obtain ⟨error, failed⟩ : ∃ error, bindService host config config.service "command service"
        .inet4Command .inet6Command = (.error error, (commandTries host config).2) :=
      bindService_of_unbound _ _ _ commands
    simp only [bindServices, failed]
    exact .commandsFail error commands

/-! ### The machine's own socket -/

/-- Nothing is in the way of a socket any more: what stood at its path was removed. -/
def Cleared (host : Host) (path : String) (after : Host) : Prop :=
  if host.finds path then host.remove path = (.ok (), after) else host = after

/-- A socket is given its owner, if one is set. -/
def Owned (host : Host) (config : Configuration) (path : String) (after : Host) : Prop :=
  if config.socketUid = none ∧ config.socketGid = none then host = after
  else host.setOwner path config.socketUid config.socketGid = (.ok (), after)

/-- A socket is set up: it is bound where nothing is in its way, and has its permissions and its owner. -/
def SetUp (host : Host) (config : Configuration) (path : String) (after : Host) : Prop :=
  ∃ cleared bound permitted mode, Cleared host path cleared ∧ cleared.bindUnix path = (.ok (), bound) ∧
    Configuration.mode? config.socketMode = some mode ∧ bound.setMode path mode = (.ok (), permitted) ∧
    Owned permitted config path after

/-- The ways setting up a socket can go. -/
inductive SetsUp (host : Host) (config : Configuration) (path : String) : Except StartupError Unit → Host → Prop
  /-- What is in the way can not be removed. -/
  | blocked (error : SystemError) (after : Host) (stale : host.finds path = true)
      (refused : host.remove path = (.error error, after)) :
      SetsUp host config path (.error (.bind path error)) after
  | unbound (error : SystemError) (cleared after : Host) (clear : Cleared host path cleared)
      (refused : cleared.bindUnix path = (.error error, after)) :
      SetsUp host config path (.error (.bind path error)) after
  /-- The permissions that are set can not be read. -/
  | unreadable (cleared bound : Host) (clear : Cleared host path cleared)
      (binds : cleared.bindUnix path = (.ok (), bound)) (noMode : Configuration.mode? config.socketMode = none) :
      SetsUp host config path (.error (.configurationInvalid (.socketMode config.socketMode))) bound
  | unpermitted (error : SystemError) (cleared bound after : Host) (mode : Nat) (clear : Cleared host path cleared)
      (binds : cleared.bindUnix path = (.ok (), bound)) (isMode : Configuration.mode? config.socketMode = some mode)
      (refused : bound.setMode path mode = (.error error, after)) :
      SetsUp host config path (.error (.bind path error)) after
  | unowned (error : SystemError) (cleared bound permitted after : Host) (mode : Nat)
      (clear : Cleared host path cleared) (binds : cleared.bindUnix path = (.ok (), bound))
      (isMode : Configuration.mode? config.socketMode = some mode)
      (permits : bound.setMode path mode = (.ok (), permitted))
      (set : ¬ (config.socketUid = none ∧ config.socketGid = none))
      (refused : permitted.setOwner path config.socketUid config.socketGid = (.error error, after)) :
      SetsUp host config path (.error (.bind path error)) after
  | done (after : Host) (setUp : SetUp host config path after) : SetsUp host config path (.ok ()) after

theorem setsUp (host : Host) (config : Configuration) (path : String) :
    SetsUp host config path (bindUnix host config path).1 (bindUnix host config path).2 := by
  unfold bindUnix
  rcases clears : (if host.finds path then host.remove path else (.ok (), host)) with ⟨error | _, cleared⟩
  · have stale : host.finds path = true := by
      by_contra free
      rw [if_neg free] at clears
      cases clears
    rw [if_pos stale] at clears
    exact .blocked error cleared stale clears
  · have clear : Cleared host path cleared := by
      unfold Cleared
      split
      · rename_i stale
        rwa [if_pos stale] at clears
      · rename_i free
        rw [if_neg free] at clears
        exact (Prod.mk.inj clears).2
    simp only [orBindError]
    rcases binds : cleared.bindUnix path with ⟨error | _, bound⟩
    · exact .unbound error cleared bound clear binds
    · cases isMode : Configuration.mode? config.socketMode with
      | none => exact .unreadable cleared bound clear binds isMode
      | some mode =>
        rcases permits : bound.setMode path mode with ⟨error | _, permitted⟩
        · simp only [permits]
          exact .unpermitted error cleared bound permitted mode clear binds isMode permits
        · by_cases unset : config.socketUid = none ∧ config.socketGid = none
          · have owned : Owned permitted config path permitted := by rw [Owned, if_pos unset]
            simp only [permits, if_pos unset]
            exact .done permitted ⟨cleared, bound, permitted, mode, clear, binds, isMode, permits, owned⟩
          · rcases owns : permitted.setOwner path config.socketUid config.socketGid with ⟨error | _, after⟩
            · simp only [permits, if_neg unset, owns]
              exact .unowned error cleared bound permitted after mode clear binds isMode permits unset owns
            · have owned : Owned permitted config path after := by rwa [Owned, if_neg unset]
              simp only [permits, if_neg unset, owns]
              exact .done after ⟨cleared, bound, permitted, mode, clear, binds, isMode, permits, owned⟩

/-- Setting up the socket succeeds exactly if it is set up. -/
theorem bindUnix_eq_ok_iff {host after : Host} {config : Configuration} {path : String} :
    bindUnix host config path = (.ok (), after) ↔ SetUp host config path after := by
  constructor
  · intro succeeds
    have goes := setsUp host config path
    rw [succeeds] at goes
    cases goes with
    | done _ setUp => exact setUp
  · intro setUp
    obtain ⟨cleared, bound, permitted, mode, clear, binds, isMode, permits, owned⟩ := setUp
    have clears : (if host.finds path then host.remove path else (.ok (), host)) = (.ok (), cleared) := by
      unfold Cleared at clear
      split at clear
      · rename_i stale
        rwa [if_pos stale]
      · rename_i free
        rw [if_neg free, clear]
    unfold Owned at owned
    unfold bindUnix
    simp only [clears, orBindError, binds, isMode, permits]
    split at owned
    · rename_i unset
      rw [if_pos unset, owned]
    · rename_i set
      rw [if_neg set, owned]

/-! ### All of it -/

/-- What is bound once the machine's own socket is. -/
def withSocket (path : String) : Listeners := { sockets := [{ kind := .localCommand }], socketFile := some path }

/-- The ways opening the sockets can go. -/
inductive Binds (host : Host) (config : Configuration) : Except StartupError Listeners → Host → Prop
  | socketFails (path : String) (error : StartupError) (after : Host) (socket : config.socket = some path)
      (fails : bindUnix host config path = (.error error, after)) : Binds host config (.error error) after
  | withoutSocket (result : Except StartupError Listeners) (after : Host) (noSocket : config.socket = none)
      (binds : BindsServices host config {} result after) : Binds host config result after
  | withSocket (path : String) (between : Host) (result : Except StartupError Listeners) (after : Host)
      (socket : config.socket = some path) (setUp : SetUp host config path between)
      (binds : BindsServices between config (withSocket path) result after) : Binds host config result after

theorem binds (host : Host) (config : Configuration) :
    Binds host config (bind host config).1 (bind host config).2 := by
  unfold bind
  cases socket : config.socket with
  | none => exact .withoutSocket _ _ socket (bindsServices host config {})
  | some path =>
    rcases result : bindUnix host config path with ⟨error | _, between⟩
    · simp only [result]
      exact .socketFails path error between socket result
    · simp only [result]
      exact .withSocket path between _ _ socket (bindUnix_eq_ok_iff.mp result)
        (bindsServices between config (withSocket path))

end Listeners

end NodeBus
