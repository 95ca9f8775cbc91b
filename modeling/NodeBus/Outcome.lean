/-!
# Outcomes

Why an exchange on the bus can fail, which failures are worth another attempt, and the codes reported to
clients.
-/
namespace NodeBus

inductive BusError where
  /-- The request could not be written in time; the bus is presumed down. -/
  | txTimeout
  | rxTimeout
  /-- The answer was cut short, had no start marker, or was too long. -/
  | framing
  | crc
  /-- The header of the answer was neither an acknowledgement nor a refusal of the right variant. -/
  | format
  | nak
  | invalidParam
  deriving DecidableEq, Repr

/-- Is another attempt worth making? -/
def BusError.isRetryable : BusError → Bool
  | .rxTimeout | .crc | .framing => true
  | .txTimeout | .format | .nak | .invalidParam => false

abbrev Outcome := Except BusError Unit

inductive Status where
  | ok | rxTimeout | txTimeout | crcError | framingError | formatError | nakError | invalidParam
  | commandUnknown | helperConfigError | helperSpawnError | helperError
  deriving DecidableEq, Repr

namespace Status

def code : Status → UInt8
  | .ok => 0
  | .rxTimeout => 1
  | .txTimeout => 2
  | .crcError => 3
  | .framingError => 4
  | .formatError => 5
  | .nakError => 6
  | .invalidParam => 7
  | .commandUnknown => 8
  | .helperConfigError => 9
  | .helperSpawnError => 10
  | .helperError => 11

def ofCode? (code : Nat) : Option Status :=
  [.ok, .rxTimeout, .txTimeout, .crcError, .framingError, .formatError, .nakError, .invalidParam,
    .commandUnknown, .helperConfigError, .helperSpawnError, .helperError][code]?

end Status

def BusError.status : BusError → Status
  | .txTimeout => .txTimeout
  | .rxTimeout => .rxTimeout
  | .framing => .framingError
  | .crc => .crcError
  | .format => .formatError
  | .nak => .nakError
  | .invalidParam => .invalidParam

def Outcome.status : Outcome → Status
  | .ok () => .ok
  | .error error => error.status

end NodeBus
