import NodeBus.Startup

/-!
# Command line

The arguments of the program that checks a settings file, and what it reports about one that passed: the
device, and every socket that clients can connect to.
-/
namespace NodeBus.CommandLine

structure Options where
  configFile : String := "/etc/hand.toml"
  deriving DecidableEq, Repr

inductive UsageError where
  | missingValue (option : String)
  | unknownArgument (argument : String)
  deriving DecidableEq, Repr

def UsageError.message : UsageError → String
  | .missingValue option => "a value is required for " ++ option
  | .unknownArgument argument => "unexpected argument " ++ argument

/-- Reads the arguments. An option given again replaces the earlier one. -/
def parse (options : Options) : List String → Except UsageError Options
  | [] => .ok options
  | [argument] =>
    if argument = "-c" ∨ argument = "--config-file" then .error (.missingValue argument)
    else .error (.unknownArgument argument)
  | argument :: value :: rest =>
    if argument = "-c" ∨ argument = "--config-file" then parse { options with configFile := value } rest
    else .error (.unknownArgument argument)

/-- A line for every address a service is to be reached at. -/
def serviceLines (what : String) (config : Configuration) (port : Option UInt16) : List String :=
  match port with
  | none => []
  | some port => (config.bindAddresses port).map fun address => what ++ " on " ++ address.text

def report (config : Configuration) : List String :=
  ["bus on " ++ config.tty] ++
    (config.socket.map ("commands on " ++ ·)).toList ++
    serviceLines "commands" config config.service ++
    serviceLines "text monitors" config config.textService

end NodeBus.CommandLine
