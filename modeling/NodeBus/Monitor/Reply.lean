import NodeBus.Burst
import NodeBus.Monitor.HexPairs
import NodeBus.Outcome
import NodeBus.Packet

/-!
# Lines to text monitors

Every line a monitor gets is short enough for a fixed buffer. A line is put together piece by piece; a
piece that does not fit is left out.
-/
namespace NodeBus

/-- The text with one more piece, if the piece fits. -/
def BoundedText.append {capacity : Nat} (held : BoundedText capacity) (piece : List Char) :
    BoundedText capacity :=
  (ofString? (held.text ++ String.ofList piece)).getD held

namespace Monitor

/-- The longest line to a monitor: two letters, the pairs of address, command and status, and the
line ending. -/
def maxReply : Nat := 2 + 4 + 2 * maxParams + 1

abbrev Reply := BoundedText maxReply

def line (pieces : List (List Char)) : Reply := pieces.foldl BoundedText.append .empty

/-- The answer to a line that asked for no exchange and was understood. -/
def okReply : Reply := line [['O', 'K', '\n']]

def errorReply : Reply := line [['E', 'R', '\n']]

def statusReply (packet : Packet) : Reply :=
  line (['R', 'S'] :: HexPairs.pair packet.address :: HexPairs.pair packet.command ::
    packet.status.items.map HexPairs.pair ++ [['\n']])

def failureReply (status : Status) : Reply :=
  line [['C', 'E'], HexPairs.pair status.code, ['\n']]

def notice (interrupt : Interrupt) : Reply :=
  let (first, second, third) := interrupt.reason
  line [['E', 'I'], HexPairs.pair interrupt.address, HexPairs.pair first, HexPairs.pair second,
    HexPairs.pair third, ['\n']]

end Monitor

end NodeBus
