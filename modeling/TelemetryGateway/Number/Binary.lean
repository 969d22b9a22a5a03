/-!
# Binary interchange formats

A format fixes how many bits the significand and the exponent of a floating-point number have. A
magnitude is kept as its bit pattern without the sign, so magnitudes in numerical order are bit
patterns in numerical order. All arithmetic here is exact arithmetic on natural numbers.

## Main definitions

- `Format`: a format, with `binary32` and `binary64`
- `Format.significand`, `Format.scale`: a finite pattern as `significand * 2 ^ scale`
- `roundDiv`: a quotient to the nearest natural number, a half to the even neighbour
- `Format.ofRatio`: the nearest magnitude to a fraction
- `Format.convert`: the nearest magnitude of another format
-/

namespace TelemetryGateway.Number

/-- A binary floating-point format. -/
structure Format where
  /-- Bits of the significand, the implicit leading one included. -/
  precision : Nat
  /-- Bits of the biased exponent. -/
  exponentBits : Nat
deriving DecidableEq

def binary32 : Format := ⟨24, 8⟩

def binary64 : Format := ⟨53, 11⟩

/-- The natural number nearest to `num / den`; a half goes to the even neighbour. -/
def roundDiv (num den : Nat) : Nat :=
  let q := num / den
  let r := num % den
  if 2 * r < den then q
  else if den < 2 * r then q + 1
  else q + q % 2

namespace Format

/-- The leading bit of a full significand, which its pattern does not hold. -/
def leadingBit (f : Format) : Nat :=
  Nat.pow 2 (f.precision - 1)

/-- The scale of the smallest positive magnitude. -/
def minScale (f : Format) : Int :=
  -(Nat.pow 2 (f.exponentBits - 1) + f.precision - 3 : Nat)

def infinity (f : Format) : Nat :=
  (Nat.pow 2 f.exponentBits - 1) * f.leadingBit

/-- The quiet pattern of what is no number. -/
def notANumber (f : Format) : Nat :=
  f.infinity + f.leadingBit / 2

def signBit (f : Format) : Nat :=
  Nat.pow 2 (f.exponentBits + f.precision - 1)

/-- The integer significand of a finite pattern. -/
def significand (f : Format) (bits : Nat) : Nat :=
  if bits < f.leadingBit then bits else f.leadingBit + bits % f.leadingBit

/-- The exponent of two that belongs to the integer significand of a finite pattern. -/
def scale (f : Format) (bits : Nat) : Int :=
  f.minScale + (bits / f.leadingBit - 1 : Nat)

/-- `num / den * 2 ^ (-scale)` as a fraction of natural numbers. -/
def scaled (num den : Nat) (scale : Int) : Nat × Nat :=
  match scale with
  | .ofNat n => (num, den * Nat.pow 2 n)
  | .negSucc n => (num * Nat.pow 2 (n + 1), den)

/-- The magnitude nearest to `num / den`, a half going to the even neighbour. -/
def ofRatio (f : Format) (num den : Nat) : Nat :=
  if num = 0 then 0
  else
    -- The quotient has `precision` bits at this scale or at the one below it.
    let high : Int := Int.ofNat num.log2 - Int.ofNat den.log2 - Int.ofNat (f.precision - 1)
    let (n, d) := scaled num den high
    let fitted := if n / d < f.leadingBit then high - 1 else high
    let scale := max fitted f.minScale
    let (n, d) := scaled num den scale
    -- A significand that is rounded up to the next power of two carries into the exponent
    let bits := (scale - f.minScale).toNat * f.leadingBit + roundDiv n d
    min bits f.infinity

/-- A finite pattern as a fraction. -/
def toRatio (f : Format) (bits : Nat) : Nat × Nat :=
  match f.scale bits with
  | .ofNat n => (f.significand bits * Nat.pow 2 n, 1)
  | .negSucc n => (f.significand bits, Nat.pow 2 (n + 1))

/-- The pattern of `target` nearest to a pattern of `f`. -/
def convert (f target : Format) (bits : Nat) : Nat :=
  if bits < f.infinity then
    let (num, den) := f.toRatio bits
    target.ofRatio num den
  else if bits = f.infinity then target.infinity
  -- Payloads are not kept
  else target.notANumber

end Format

end TelemetryGateway.Number
