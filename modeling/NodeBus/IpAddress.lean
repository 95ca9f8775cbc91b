import NodeBus.Text.Digits

/-!
# IP addresses

Addresses of both families in their textual forms. A decimal part has no leading zero, a group has one to
four hex digits, and a run of at least one zero group may be left out once. The last two groups may be
written as an IPv4 address. Written out, groups have no leading zeros, the first longest run of at least two
zero groups is left out, and an address that stands for an IPv4 address shows it.
-/
namespace NodeBus

structure Ipv4 where
  first : UInt8
  second : UInt8
  third : UInt8
  fourth : UInt8
  deriving DecidableEq, Repr

namespace Ipv4

/-- Does this address stand for every address of the machine? -/
def isAny (address : Ipv4) : Bool :=
  address.first == 0 && address.second == 0 && address.third == 0 && address.fourth == 0

def isMulticast (address : Ipv4) : Bool := 224 ≤ address.first && address.first ≤ 239

def isBroadcast (address : Ipv4) : Bool :=
  address.first == 255 && address.second == 255 && address.third == 255 && address.fourth == 255

end Ipv4

/-- The eight groups of an IPv6 address. -/
abbrev Ipv6 := Vector UInt16 8

inductive IpAddress where
  | v4 (address : Ipv4)
  | v6 (address : Ipv6)
  deriving DecidableEq, Repr

structure SocketAddress where
  address : IpAddress
  port : UInt16
  deriving DecidableEq, Repr

namespace IpAddress

def readPart (input : List Char) : Option (UInt8 × List Char) :=
  let digits := input.takeWhile Char.isDigit
  let value := Text.digitsValue 10 digits
  if digits = [] ∨ 3 < digits.length ∨ (digits.head? = some '0' ∧ 1 < digits.length) ∨ 255 < value then
    none
  else some (value.toUInt8, input.dropWhile Char.isDigit)

def readNextPart (input : List Char) : Option (UInt8 × List Char) :=
  match input with
  | '.' :: rest => readPart rest
  | _ => none

def readV4 (input : List Char) : Option (Ipv4 × List Char) := do
  let (first, input) ← readPart input
  let (second, input) ← readNextPart input
  let (third, input) ← readNextPart input
  let (fourth, input) ← readNextPart input
  return ({ first, second, third, fourth }, input)

def readGroup (input : List Char) : Option (UInt16 × List Char) :=
  let digits := input.takeWhile Text.isHexDigit
  if digits = [] ∨ 4 < digits.length then none
  else some ((Text.digitsValue 16 digits).toUInt16, input.dropWhile Text.isHexDigit)

/-- Skips the colon in front of a group; there is none in front of the first. -/
def skipColon (isFirst : Bool) (input : List Char) : Option (List Char) :=
  if isFirst then some input
  else
    match input with
    | ':' :: rest => some rest
    | _ => none

/-- The two groups an IPv4 address stands for. -/
def groupsOfV4 (address : Ipv4) : List UInt16 :=
  [address.first.toUInt16 * 256 + address.second.toUInt16,
    address.third.toUInt16 * 256 + address.fourth.toUInt16]

/-- Reads up to `room` groups, as many as there are. An IPv4 address in place of two groups ends them.
Tells whether one did. -/
def readGroups : Nat → Bool → List Char → List UInt16 × Bool × List Char
  | 0, _, input => ([], false, input)
  | room + 1, isFirst, input =>
    match skipColon isFirst input with
    | none => ([], false, input)
    | some start =>
      match if room = 0 then none else readV4 start with
      | some (address, rest) => (groupsOfV4 address, true, rest)
      | none =>
        match readGroup start with
        | none => ([], false, input)
        | some (group, rest) =>
          let (groups, endsInV4, rest) := readGroups room false rest
          (group :: groups, endsInV4, rest)

/-- The address with the given groups; missing ones are zero. -/
def ofGroups (groups : List UInt16) : Ipv6 := Vector.ofFn fun index => groups[index.val]?.getD 0

def readV6 (input : List Char) : Option (Ipv6 × List Char) :=
  let (head, endsInV4, rest) := readGroups 8 true input
  if head.length = 8 then some (ofGroups head, rest)
  else if endsInV4 then none
  else
    match rest with
    | ':' :: ':' :: rest =>
      let (tail, _, rest) := readGroups (7 - head.length) true rest
      let zeros := List.replicate (8 - head.length - tail.length) 0
      some (ofGroups (head ++ zeros ++ tail), rest)
    | _ => none

/-- Reads an address that makes up the whole text. -/
def parse? (text : String) : Option IpAddress :=
  match readV4 text.toList with
  | some (address, rest) => if rest = [] then some (.v4 address) else none
  | none =>
    match readV6 text.toList with
    | some (address, []) => some (.v6 address)
    | _ => none

def isV4 : IpAddress → Bool
  | .v4 _ => true
  | .v6 _ => false

def anyV4 : IpAddress := .v4 { first := 0, second := 0, third := 0, fourth := 0 }

def anyV6 : IpAddress := .v6 (ofGroups [])

/-- The IPv4 address an IPv6 address stands for, if it does. -/
def mappedV4? (address : Ipv6) : Option Ipv4 :=
  match address.toList with
  | [0, 0, 0, 0, 0, 0xFFFF, high, low] =>
    some
      { first := (high / 256).toUInt8
        second := (high % 256).toUInt8
        third := (low / 256).toUInt8
        fourth := (low % 256).toUInt8 }
  | _ => none

def isMulticastV6 (address : Ipv6) : Bool := address[0] / 256 == 0xFF

/-- Does this IPv6 address hold on one link only? -/
def isLinkLocalV6 (address : Ipv6) : Bool := address[0] / 64 == 0x3FA

def v4Text (address : Ipv4) : String :=
  ".".intercalate ([address.first, address.second, address.third, address.fourth].map fun part =>
    toString part.toNat)

def groupsText (groups : List UInt16) : String :=
  ":".intercalate (groups.map fun group => String.ofList (Nat.toDigits 16 group.toNat))

def zeroRun (groups : List UInt16) : Nat := (groups.takeWhile (· == 0)).length

/-- Where the first longest run of zeros starts, and its length. -/
def longestRun (groups : List UInt16) : Nat × Nat :=
  (List.range groups.length).foldl
    (fun best start =>
      let length := zeroRun (groups.drop start)
      if best.2 < length then (start, length) else best)
    (0, 0)

def v6Text (address : Ipv6) : String :=
  match mappedV4? address with
  | some mapped => "::ffff:" ++ v4Text mapped
  | none =>
    let groups := address.toList
    let (start, length) := longestRun groups
    if length < 2 then groupsText groups
    else groupsText (groups.take start) ++ "::" ++ groupsText (groups.drop (start + length))

def text : IpAddress → String
  | .v4 address => v4Text address
  | .v6 address => v6Text address

end IpAddress

/-- An address and port in their textual form: an IPv6 address stands between brackets. -/
def SocketAddress.text (socket : SocketAddress) : String :=
  match socket.address with
  | .v4 address => IpAddress.v4Text address ++ ":" ++ toString socket.port.toNat
  | .v6 address => "[" ++ IpAddress.v6Text address ++ "]:" ++ toString socket.port.toNat

end NodeBus
