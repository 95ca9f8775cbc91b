import NodeBus.Host.Files
import NodeBus.IpAddress

/-!
# The host

The machine as the daemon sees it: files, the addresses that sockets can be bound to, and those that are
bound. Every call to the system may fail; a plan says how the next calls fail that are told to.
-/
namespace NodeBus

structure Host where
  files : Files := {}
  isLocal : IpAddress → Bool := fun _ => true
  /-- The addresses and ports that are listened on. -/
  bound : List SocketAddress := []
  /-- How the next calls fail; a call without a plan is carried out. -/
  faults : List (Option SystemError) := []

namespace Host

def fileMode : Nat := 0o644

/-- The permission bits of a new directory or socket. -/
def directoryMode : Nat := 0o755

/-- Carries out a call, unless it is planned to fail. -/
def call {α : Type} (host : Host) (carryOut : Host → Except SystemError (α × Host)) :
    Except SystemError α × Host :=
  let planned := { host with faults := host.faults.tail }
  match host.faults.head?.join with
  | some error => (.error error, planned)
  | none =>
    match carryOut planned with
    | .error error => (.error error, planned)
    | .ok (result, host) => (.ok result, host)

def put (host : Host) (location : Location) (entry : Option FileEntry) : Host :=
  { host with files := host.files.put location entry }

/-- Creates an empty file where there is nothing. A slash behind the name asks for a directory, which is
not what is created here. -/
def createNew (host : Host) (text : String) : Except SystemError Unit × Host :=
  host.call fun host => do
    match ← host.files.target text with
    | .directory _ => .error .alreadyExists
    | .name _ _ true => .error .isDirectory
    | .name parent name false =>
      let location ← Files.lookUp parent name
      if host.files.hasEntry location then .error .alreadyExists
      else return ((), host.put location (some { kind := .file [], mode := fileMode }))

/-- Fills a file; one that is not there is created. -/
def write (host : Host) (text : String) (contents : List UInt8) : Except SystemError Unit × Host :=
  host.call fun host => do
    match ← host.files.target text with
    | .directory _ | .name _ _ true => .error .isDirectory
    | .name parent name false =>
      let location ← Files.lookUp parent name
      if host.files.isDirectory location then .error .isDirectory
      else
        match host.files.entry? location with
        | none =>
          return ((), host.put location (some { kind := .file contents, mode := fileMode }))
        | some { kind := .file _, mode } =>
          return ((), host.put location (some { kind := .file contents, mode }))
        | some _ => .error .noDevice

def read (host : Host) (text : String) : Except SystemError (List UInt8) × Host :=
  host.call fun host => do
    let location ← host.files.find text
    match host.files.entry? location with
    | some { kind := .file contents, .. } => return (contents, host)
    | some { kind := .socket, .. } => .error .noDevice
    | some { kind := .directory, .. } | none => .error .isDirectory

/-- Removes what a path leads to, unless it is a directory. -/
def remove (host : Host) (text : String) : Except SystemError Unit × Host :=
  host.call fun host => do
    match ← host.files.target text with
    | .directory _ => .error .isDirectory
    | .name parent name slashed =>
      let location ← Files.lookUp parent name
      if host.files.isDirectory location then .error .isDirectory
      else if !host.files.hasEntry location then .error .notFound
      else if slashed then .error .notDirectory
      else return ((), host.put location none)

/-- Does a path lead to something? Looking does not fail. -/
def finds (host : Host) (text : String) : Bool := (host.files.find text).isOk

/-- The longest path of a socket, in bytes. The NUL character in front of an abstract name counts, but
unlike a path such a name needs none behind it. -/
def maxSocketPath : Nat := 107

/-- Binds a socket to a path where there is nothing. A path that is empty or starts with the NUL
character names a socket that has no file. -/
def bindUnix (host : Host) (text : String) : Except SystemError Unit × Host :=
  host.call fun host => do
    if text = "" then return ((), host)
    else if text.toList.head? = some '\x00' then
      if maxSocketPath + 1 < text.utf8ByteSize then .error .abstractNameTooLong else return ((), host)
    else if text.toList.contains '\x00' then .error .nulInSocketPath
    else if maxSocketPath < text.utf8ByteSize then .error .socketPathTooLong
    else
      match ← host.files.target text with
      | .directory _ => .error .addressInUse
      | .name parent name slashed =>
        let location ← Files.lookUp parent name
        if host.files.hasEntry location then .error .addressInUse
        else if slashed then .error .notFound
        else return ((), host.put location (some { kind := .socket, mode := directoryMode }))

def setMode (host : Host) (text : String) (mode : Nat) : Except SystemError Unit × Host :=
  host.call fun host => do
    let location ← host.files.find text
    return ((), host.put location ((host.files.entry? location).map fun entry => { entry with mode }))

def setOwner (host : Host) (text : String) (_uid _gid : Option UInt32) :
    Except SystemError Unit × Host :=
  host.call fun host => do
    let _ ← host.files.find text
    return ((), host)

/-- What is wrong with an IPv4 address for a listening socket, if anything is. Addresses of groups of
hosts are accepted like the machine's own. -/
def faultV4? (host : Host) (address : Ipv4) : Option SystemError :=
  if address.isAny || address.isMulticast || address.isBroadcast || host.isLocal (.v4 address) then none
  else some .addressNotAvailable

def addressFault? (host : Host) : IpAddress → Option SystemError
  | .v4 address => host.faultV4? address
  | .v6 address =>
    match IpAddress.mappedV4? address with
    | some mapped => host.faultV4? mapped
    | none =>
      if IpAddress.isMulticastV6 address || IpAddress.isLinkLocalV6 address then some .invalidArgument
      else if IpAddress.v6 address = .anyV6 || host.isLocal (.v6 address) then none
      else some .addressNotAvailable

/-- Do two sockets on one port stand in each other's way? One for all addresses of the newer family
serves the older one too. -/
def overlap (one other : IpAddress) : Bool :=
  one == other || one == .anyV6 || other == .anyV6 ||
    (one.isV4 && other.isV4 && (one == .anyV4 || other == .anyV4))

/-- Binds a listening socket. Port zero stands for any port that is free. -/
def bindTcp (host : Host) (socket : SocketAddress) : Except SystemError Unit × Host :=
  host.call fun host =>
    match host.addressFault? socket.address with
    | some fault => .error fault
    | none =>
      if socket.port = 0 then .ok ((), host)
      else if host.bound.any fun other =>
          other.port == socket.port && overlap other.address socket.address then
        .error .addressInUse
      else .ok ((), { host with bound := socket :: host.bound })

end Host

end NodeBus
