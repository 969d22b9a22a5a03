/-!
# Hexadecimal text

Bytes as pairs of lowercase hexadecimal digits, the high digit first.

## Main definitions

- `Hex.encode`: the text of a byte string
- `Hex.padded`: a number on a fixed count of digits
-/

namespace TelemetryGateway.Text.Hex

/-- The lowercase digit of a number below sixteen. -/
def digit (n : Nat) : Char :=
  Char.ofNat (if n < 10 then 48 + n else 87 + n)

/-- The two digits of a byte. -/
def ofByte (b : UInt8) : List Char :=
  [digit (b.toNat / 16), digit (b.toNat % 16)]

/-- The lowercase hexadecimal text of a byte string. -/
def encode (bytes : List UInt8) : String :=
  String.ofList (bytes.flatMap ofByte)

/-- The digits of `n`, without leading zeros. -/
def ofNat (n : Nat) : String :=
  String.ofList (Nat.toDigits 16 n)

/-- The last `width` digits of `n`, filled up with zeros. -/
def padded : Nat → Nat → List Char
  | 0, _ => []
  | width + 1, n => padded width (n / 16) ++ [digit (n % 16)]

/-- The value of a hexadecimal digit of either case. -/
def value? (b : UInt8) : Option Nat :=
  if 48 ≤ b && b ≤ 57 then some (b.toNat - 48)
  else if 97 ≤ b && b ≤ 102 then some (b.toNat - 87)
  else if 65 ≤ b && b ≤ 70 then some (b.toNat - 55)
  else none

/-- The bytes that pairs of digits spell; a pair that holds another character spells nothing. -/
def decode : List UInt8 → List UInt8
  | hi :: lo :: rest =>
    match value? hi, value? lo with
    | some h, some l => UInt8.ofNat (16 * h + l) :: decode rest
    | _, _ => decode rest
  | _ => []

end TelemetryGateway.Text.Hex
