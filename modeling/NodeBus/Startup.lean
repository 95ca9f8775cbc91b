import NodeBus.Configuration.Basic
import NodeBus.Host.Basic
import NodeBus.WatchSet

/-!
# Starting up

Reading the configuration, holding a pid file, and opening the sockets clients connect to. Each of these can
fail, and a failure stops the daemon from starting.
-/
namespace NodeBus

inductive StartupError where
  | configurationRead (path : String) (error : SystemError)
  | configurationMalformed (path : String)
  | configurationInvalid (misfit : Misfit)
  | bind (what : String) (error : SystemError)
  | pidFileExists (path : String)
  | pidFile (path : String) (error : SystemError)
  deriving DecidableEq, Repr

def StartupError.message : StartupError → String
  | .configurationRead path error => "cannot read configuration " ++ path ++ ": " ++ error.message
  | .configurationMalformed path => "cannot parse configuration " ++ path
  | .configurationInvalid misfit => "invalid configuration: " ++ misfit.message
  | .bind what error => "cannot bind " ++ what ++ ": " ++ error.message
  | .pidFileExists path => "pid file " ++ path ++ " already exists, is another hand running?"
  | .pidFile path error => "cannot write pid file " ++ path ++ ": " ++ error.message

def Configuration.ofBytes (path : String) (found : Except SystemError (List UInt8)) :
    Except StartupError Configuration :=
  match found with
  | .error error => .error (.configurationRead path error)
  | .ok bytes =>
    match String.fromUTF8? ⟨bytes.toArray⟩ with
    | none => .error (.configurationRead path .notUtf8)
    | some text =>
      match Configuration.parse text with
      | .error .malformed => .error (.configurationMalformed path)
      | .error (.invalid misfit) => .error (.configurationInvalid misfit)
      | .ok config => .ok config

def Configuration.load (host : Host) (path : String) : Except StartupError Configuration × Host :=
  let (found, host) := host.read path
  (Configuration.ofBytes path found, host)

structure PidFile where
  path : String
  deriving DecidableEq, Repr

namespace PidFile

def contents (pid : Nat) : List UInt8 := (toString pid ++ "\n").toByteArray.data.toList

/-- Creates the pid file of a process; one that is there already is left alone. The pid and the newline behind it
count as one write. -/
def create (host : Host) (pid : Nat) (path : String) : Except StartupError PidFile × Host :=
  match host.createNew path with
  | (.error .alreadyExists, host) => (.error (.pidFileExists path), host)
  | (.error error, host) => (.error (.pidFile path error), host)
  | (.ok (), host) =>
    match host.write path (contents pid) with
    | (.error error, host) => (.error (.pidFile path error), host)
    | (.ok (), host) => (.ok { path }, host)

def drop (host : Host) (held : PidFile) : Host := (host.remove held.path).2

end PidFile

structure Listener where
  kind : Kind
  address : Option SocketAddress := none
  deriving DecidableEq, Repr

/-- The sockets clients connect to, and the socket file to remove in the end. -/
structure Listeners where
  sockets : List Listener := []
  socketFile : Option String := none
  deriving DecidableEq, Repr

namespace Listeners

def drop (host : Host) (listeners : Listeners) : Host :=
  match listeners.socketFile with
  | none => host
  | some path => (host.remove path).2

/-- Carries on with the result of a call, or gives up binding with its error. -/
def orBindError {α : Type} (what : String) (result : Except SystemError Unit × Host)
    (next : Host → Except StartupError α × Host) : Except StartupError α × Host :=
  match result with
  | (.error error, host) => (.error (.bind what error), host)
  | (.ok (), host) => next host

/-- Binds the socket of the machine itself: what an unclean exit left behind is removed first, and
permissions and owner are set at last. -/
def bindUnix (host : Host) (config : Configuration) (path : String) :
    Except StartupError Unit × Host :=
  let cleared := if host.finds path then host.remove path else (.ok (), host)
  orBindError path cleared fun host =>
    orBindError path (host.bindUnix path) fun host =>
      match Configuration.mode? config.socketMode with
      | none => (.error (.configurationInvalid (.socketMode config.socketMode)), host)
      | some mode =>
        orBindError path (host.setMode path mode) fun host =>
          if config.socketUid = none ∧ config.socketGid = none then (.ok (), host)
          else
            orBindError path (host.setOwner path config.socketUid config.socketGid) fun host =>
              (.ok (), host)

/-- Tries to bind each address, and gives those that were bound and the last failure. -/
def bindEach (host : Host) : List SocketAddress →
    List SocketAddress × Option (SocketAddress × SystemError) × Host
  | [] => ([], none, host)
  | socket :: rest =>
    match host.bindTcp socket with
    | (.ok (), host) =>
      let (bound, failure, host) := bindEach host rest
      (socket :: bound, failure, host)
    | (.error error, host) =>
      let (bound, failure, host) := bindEach host rest
      (bound, failure.or (some (socket, error)), host)

/-- Binds a port on every address of the configuration; one that is bound is enough. -/
def bindTcp (host : Host) (config : Configuration) (port : UInt16) (what : String) :
    Except StartupError (List SocketAddress) × Host :=
  match bindEach host (config.bindAddresses port) with
  | ([], some (socket, error), host) => (.error (.bind (what ++ " on " ++ socket.text) error), host)
  | (bound, _, host) => (.ok bound, host)

def bindService (host : Host) (config : Configuration) (port : Option UInt16) (what : String)
    (v4 v6 : Kind) : Except StartupError (List Listener) × Host :=
  match port with
  | none => (.ok [], host)
  | some port =>
    match bindTcp host config port what with
    | (.error error, host) => (.error error, host)
    | (.ok bound, host) =>
      (.ok (bound.map fun socket =>
        { kind := if socket.address.isV4 then v4 else v6, address := some socket }), host)

/-- Binds the services behind what is bound already. When one fails, that is closed again. -/
def bindServices (host : Host) (config : Configuration) (listeners : Listeners) :
    Except StartupError Listeners × Host :=
  match bindService host config config.service "command service" .inet4Command .inet6Command with
  | (.error error, host) => (.error error, listeners.drop host)
  | (.ok commands, host) =>
    match bindService host config config.textService "text service" .inet4Text .inet6Text with
    | (.error error, host) => (.error error, listeners.drop host)
    | (.ok texts, host) =>
      (.ok { listeners with sockets := listeners.sockets ++ commands ++ texts }, host)

def bind (host : Host) (config : Configuration) : Except StartupError Listeners × Host :=
  match config.socket with
  | none => bindServices host config {}
  | some path =>
    match bindUnix host config path with
    | (.error error, host) => (.error error, host)
    | (.ok (), host) =>
      bindServices host config { sockets := [{ kind := .localCommand }], socketFile := some path }

end Listeners

end NodeBus
