import NodeBus.BusSettings
import NodeBus.Configuration.Document
import NodeBus.Text.Quoted

/-!
# The daemon's configuration

What the settings file sets, the values that hold when it does not, and the checks a configuration must
pass. A configuration that passes can be served as written: its socket mode and its address can be read,
and clients have a way to send commands.
-/
namespace NodeBus

structure Configuration where
  tty : String := "/dev/ttyS0"
  baud : UInt32 := 9600
  pidFile : Option String := none
  logPath : Option String := none
  /-- The command socket of the machine itself. -/
  socket : Option String := none
  /-- Its permissions, in octal. -/
  socketMode : String := "660"
  socketUid : Option UInt32 := none
  socketGid : Option UInt32 := none
  /-- The TCP port for commands. -/
  service : Option UInt16 := none
  textService : Option UInt16 := none
  /-- The address of the TCP sockets; all addresses if not set. -/
  bindAddress : Option String := none
  /-- Further attempts after a failure that is worth it. -/
  retries : UInt8 := 3
  maxNodeAddress : UInt8 := NodeBus.maxNodeAddress
  helperPath : Option String := none
  /-- How long the helper may run, in seconds. -/
  helperTimeout : UInt64 := 30
  deriving DecidableEq, Repr

inductive Misfit where
  | maxNodeAddress (value : UInt8)
  | socketMode (text : String)
  | noCommandSocket
  | bindAddress (text : String)
  deriving DecidableEq, Repr

inductive ConfigurationError where
  /-- It is no settings file, or holds a setting or a type of value that there is not. -/
  | malformed
  | invalid (misfit : Misfit)
  deriving DecidableEq, Repr

def Misfit.message : Misfit → String
  | .maxNodeAddress value =>
    "max_node_addr must be at most " ++ toString NodeBus.maxNodeAddress.toNat ++ ", not " ++
      toString value.toNat
  | .socketMode text => "socket_mode " ++ Text.quoted text ++ " is not an octal mode"
  | .noCommandSocket => "one of socket or service must be set"
  | .bindAddress text => "bindaddr " ++ Text.quoted text ++ ": invalid IP address syntax"

namespace Configuration

def limited? (limit : Nat) : Document.Value → Option Nat
  | .integer value => if 0 ≤ value ∧ value < limit then some value.toNat else none
  | .text _ => none

def text? : Document.Value → Option String
  | .text text => some text
  | .integer _ => none

def word8? (value : Document.Value) : Option UInt8 := (limited? UInt8.size value).map Nat.toUInt8

def word16? (value : Document.Value) : Option UInt16 := (limited? UInt16.size value).map Nat.toUInt16

def word32? (value : Document.Value) : Option UInt32 := (limited? UInt32.size value).map Nat.toUInt32

def word64? (value : Document.Value) : Option UInt64 := (limited? UInt64.size value).map Nat.toUInt64

def set? (config : Configuration) (key : String) (value : Document.Value) : Option Configuration :=
  match key with
  | "tty" => (text? value).map ({ config with tty := · })
  | "baud" => (word32? value).map ({ config with baud := · })
  | "pid_file" => (text? value).map ({ config with pidFile := some · })
  | "log_path" => (text? value).map ({ config with logPath := some · })
  | "socket" => (text? value).map ({ config with socket := some · })
  | "socket_mode" => (text? value).map ({ config with socketMode := · })
  | "socket_uid" => (word32? value).map ({ config with socketUid := some · })
  | "socket_gid" => (word32? value).map ({ config with socketGid := some · })
  | "service" => (word16? value).map ({ config with service := some · })
  | "textservice" => (word16? value).map ({ config with textService := some · })
  | "bindaddr" => (text? value).map ({ config with bindAddress := some · })
  | "retries" => (word8? value).map ({ config with retries := · })
  | "max_node_addr" => (word8? value).map ({ config with maxNodeAddress := · })
  | "ppower_path" => (text? value).map ({ config with helperPath := some · })
  | "helper_timeout_secs" => (word64? value).map ({ config with helperTimeout := · })
  | _ => none

def setAll? (config : Configuration) : List (String × Document.Value) → Option Configuration
  | [] => some config
  | (key, value) :: rest => (config.set? key value).bind (setAll? · rest)

/-- The configuration a settings file describes, before its values are checked. No key may be set
twice. -/
def ofText? (text : String) : Option Configuration :=
  (Document.parse? text).bind fun entries =>
    if (entries.map Prod.fst).Nodup then setAll? {} entries else none

/-- The value of a socket mode: octal digits, in front of which a plus sign may stand, that name
permission bits and nothing else. -/
def mode? (text : String) : Option Nat :=
  let digits :=
    match text.toList with
    | '+' :: digits => digits
    | digits => digits
  let value := Text.digitsValue 8 digits
  if digits ≠ [] ∧ digits.all Text.isOctalDigit ∧ value ≤ 0o777 then some value else none

/-- Checks the values of a configuration; the first that does not fit is reported. -/
def check (config : Configuration) : Except Misfit Unit :=
  if NodeBus.maxNodeAddress < config.maxNodeAddress then .error (.maxNodeAddress config.maxNodeAddress)
  else if mode? config.socketMode = none then .error (.socketMode config.socketMode)
  else if config.socket = none ∧ config.service = none then .error .noCommandSocket
  else
    match config.bindAddress with
    | none => .ok ()
    | some address =>
      if IpAddress.parse? address = none then .error (.bindAddress address) else .ok ()

def parse (text : String) : Except ConfigurationError Configuration :=
  match ofText? text with
  | none => .error .malformed
  | some config =>
    match config.check with
    | .error misfit => .error (.invalid misfit)
    | .ok () => .ok config

/-- The addresses a port is served on: the one that is set, or else all of both families. -/
def bindAddresses (config : Configuration) (port : UInt16) : List SocketAddress :=
  match config.bindAddress.bind IpAddress.parse? with
  | some address => [{ address, port }]
  | none => [{ address := .anyV4, port }, { address := .anyV6, port }]

def busSettings (config : Configuration) : BusSettings where
  retries := config.retries
  maxNodeAddress := config.maxNodeAddress

def helperMilliseconds (config : Configuration) : Nat := config.helperTimeout.toNat * 1000

end Configuration

end NodeBus
