import NodeBus.Escape
import NodeBus.Header
import NodeBus.Packet

/-!
# Frames

A frame is the start marker, an escaped body and the end marker. The body of a command is its header
byte, the address, the command, the parameters and a checksum over all of these. Bodies and frames have
fixed limits, which no command exceeds.
-/
namespace NodeBus.Frame

/-- The longest body: three leading bytes, the parameters, and the long checksum. -/
def maxBody : Nat := 3 + maxParams + 2

/-- The longest frame: every byte of the body escaped, between two markers. -/
def maxLength : Nat := 2 * maxBody + 2

/-- Appends the checksum to a body, all of it or none. -/
def appendCheck? (variant : Variant) (body : List UInt8) : Option (List UInt8) :=
  let check := variant.checkBytes body
  if body.length + check.length ≤ maxBody then some (body ++ check) else none

def commandBody? (variant : Variant) (packet : Packet) : Option (List UInt8) :=
  appendCheck? variant
    ((Header.command variant).toByte :: packet.address :: packet.command :: packet.params.items)

/-- Puts a body between the markers, unless the frame would be too long. -/
def encode? (body : List UInt8) : Option (List UInt8) :=
  match Escape.stuff maxLength [Escape.stx] body with
  | { buffer, fault := none } => Escape.store? maxLength buffer Escape.etx
  | { fault := some _, .. } => none

def encodeCommand? (variant : Variant) (packet : Packet) : Option (List UInt8) :=
  (commandBody? variant packet).bind encode?

end NodeBus.Frame
