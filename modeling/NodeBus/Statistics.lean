import NodeBus.Outcome

/-!
# Statistics

Eight counters of what happened on the bus. They wrap around.
-/
namespace NodeBus

/-- Counters of attempts by outcome, and of idle input that was no interrupt frame. -/
structure Statistics where
  roundTrips : UInt32 := 0
  spuriousPackets : UInt32 := 0
  rxTimeouts : UInt32 := 0
  txTimeouts : UInt32 := 0
  crcErrors : UInt32 := 0
  framingErrors : UInt32 := 0
  formatErrors : UInt32 := 0
  naks : UInt32 := 0
  deriving DecidableEq, Repr

namespace Statistics

/-- Counts one attempt. A malformed request never reached the bus and is not counted. -/
def record (statistics : Statistics) : Outcome → Statistics
  | .ok () => { statistics with roundTrips := statistics.roundTrips + 1 }
  | .error .rxTimeout => { statistics with rxTimeouts := statistics.rxTimeouts + 1 }
  | .error .txTimeout => { statistics with txTimeouts := statistics.txTimeouts + 1 }
  | .error .crc => { statistics with crcErrors := statistics.crcErrors + 1 }
  | .error .framing => { statistics with framingErrors := statistics.framingErrors + 1 }
  | .error .format => { statistics with formatErrors := statistics.formatErrors + 1 }
  | .error .nak => { statistics with naks := statistics.naks + 1 }
  | .error .invalidParam => statistics

def spurious (statistics : Statistics) : Statistics :=
  { statistics with spuriousPackets := statistics.spuriousPackets + 1 }

end Statistics

end NodeBus
