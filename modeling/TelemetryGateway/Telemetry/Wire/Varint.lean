/-!
# Variable-length integers

A natural number in groups of seven bits, the lowest group first. Every byte but the last one has its
top bit set. Numbers have at most sixty-four bits: ten bytes, of which the tenth is zero or one.

## Main definitions

- `Varint.encode`, `Varint.length`: the bytes of a number and their count
- `Varint.decode`: the number at the front of a byte string
-/

namespace TelemetryGateway.Telemetry.Wire.Varint

/-- The bytes of a number. -/
def encode (n : Nat) : List UInt8 :=
  if n < 128 then [UInt8.ofNat n] else UInt8.ofNat (n % 128 + 128) :: encode (n / 128)
termination_by n

/-- The count of bytes that seven-bit groups of a number take. -/
def length (n : Nat) : Nat :=
  if n < 128 then 1 else 1 + length (n / 128)
termination_by n

/-- The number at the front of a byte string, of at most `left` bytes, and what follows it. The last
byte that may be read has room for one bit. -/
def decodeWithin : Nat → List UInt8 → Option (Nat × List UInt8)
  | 0, _ => none
  | _ + 1, [] => none
  | left + 1, b :: bs =>
    if b < 128 then
      if left = 0 ∧ 2 ≤ b then none else some (b.toNat, bs)
    else
      match decodeWithin left bs with
      | some (n, rest) => some (b.toNat - 128 + 128 * n, rest)
      | none => none

/-- The number at the front of a byte string, and what follows it. -/
def decode (bs : List UInt8) : Option (Nat × List UInt8) :=
  decodeWithin 10 bs

end TelemetryGateway.Telemetry.Wire.Varint
