/-!
# Bytes as pairs of hex digits

Text monitors write every byte as two hex digits, high digit first. Digits are read in either case and
written in upper case.
-/
namespace NodeBus.HexPairs

def digitValue? (digit : Char) : Option UInt8 :=
  if '0' ≤ digit ∧ digit ≤ '9' then some (digit.toNat - 48).toUInt8
  else if 'a' ≤ digit ∧ digit ≤ 'f' then some (digit.toNat - 87).toUInt8
  else if 'A' ≤ digit ∧ digit ≤ 'F' then some (digit.toNat - 55).toUInt8
  else none

/-- The hex digit of a value below sixteen. -/
def digit (value : UInt8) : Char :=
  if value < 10 then Char.ofNat (value.toNat + 48) else Char.ofNat (value.toNat + 55)

def pair (byte : UInt8) : List Char := [digit (byte / 16), digit (byte % 16)]

def encode (bytes : List UInt8) : List Char := bytes.flatMap pair

def decode? : List Char → Option (List UInt8)
  | [] => some []
  | high :: low :: rest =>
    match digitValue? high, digitValue? low, decode? rest with
    | some high, some low, some bytes => some ((high * 16 + low) :: bytes)
    | _, _, _ => none
  | [_] => none

end NodeBus.HexPairs
