import NodeBus.Monitor.HexPairs
import NodeBus.Packet

/-!
# Lines from text monitors

A monitor sends a line to call a node (`CA` and the hex pairs of address, command and parameters), or to
have interrupts announced (`IE`) or not (`ID`). A line ending is optional. Lengths count bytes of UTF-8.
Anything may follow `IE` and `ID`.
-/
namespace NodeBus.Monitor

inductive Command where
  | call (packet : Packet)
  | interruptsOn
  | interruptsOff
  deriving DecidableEq, Repr

inductive LineError where
  | unknownOpcode | badLength | badDigit
  deriving DecidableEq, Repr

def isLineEnd (character : Char) : Bool := character == '\r' || character == '\n'

def trimEnd (line : List Char) : List Char := (line.reverse.dropWhile isLineEnd).reverse

/-- How many bytes the characters take in UTF-8. -/
def byteLength : List Char → Nat
  | [] => 0
  | character :: rest => character.utf8Size + byteLength rest

/-- Reads the digits of a call. Their number is judged before their value. -/
def parseCall (digits : List Char) : Except LineError Packet :=
  let length := byteLength digits
  if length % 2 ≠ 0 ∨ length < 4 ∨ 4 + 2 * maxParams < length then .error .badLength
  else
    match HexPairs.decode? digits with
    | none => .error .badDigit
    | some (address :: command :: params) =>
      match Bounded.ofList? params with
      | some params => .ok { address, command, params }
      | none => .error .badLength
    | some _ => .error .badLength

def parse (line : List Char) : Except LineError Command :=
  match trimEnd line with
  | 'C' :: 'A' :: digits => (parseCall digits).map .call
  | 'I' :: 'E' :: _ => .ok .interruptsOn
  | 'I' :: 'D' :: _ => .ok .interruptsOff
  | _ => .error .unknownOpcode

end NodeBus.Monitor
