import TelemetryGateway.Number.Binary

/-!
# Decimal fractions of binary numbers

The shortest decimal that reads back as a given binary magnitude, the decimal on a fixed count of
places, and the binary magnitude nearest to a decimal.

## Main definitions

- `Decimal`: digits and an exponent of ten
- `Format.shortest`: of the decimals that round to a magnitude, one with the fewest digits, and of
  those the nearest
- `Format.onPlaces`: a magnitude to so many decimal places, a half to the even neighbour
- `Format.ofDecimal`: the nearest magnitude to a decimal
-/

namespace TelemetryGateway.Number

/-- The decimal fraction `digits * 10 ^ exponent`. -/
structure Decimal where
  /-- The digits as one natural number. -/
  digits : Nat
  /-- The power of ten of the last digit. -/
  exponent : Int
deriving DecidableEq, Repr

/-- The digits of a natural number, the first one first. -/
def digitsOf (n : Nat) : List Char :=
  Nat.toDigits 10 n

def zeros (n : Nat) : List Char :=
  List.replicate n '0'

namespace Format

/-- The interval of reals that round to a finite non-zero magnitude, in quarters of its step: the
lower end, the magnitude itself and the upper end. -/
def quarters (f : Format) (bits : Nat) : Nat × Nat × Nat :=
  let m := f.significand bits
  -- The step below a power of two is half as wide
  let below := if m = f.leadingBit ∧ f.minScale < f.scale bits then 1 else 2
  (4 * m - below, 4 * m, 4 * m + 2)

/-- Of the multiples of `10 ^ k` that round to a magnitude, the nearest one, if there is any. -/
def onGrid (f : Format) (bits : Nat) (k : Int) : Option Nat :=
  let (low, here, high) := f.quarters bits
  -- A multiple `c * 10 ^ k` is compared with `x` quarters as `c * grid` with `x * unit`.
  let (unit, grid) : Nat × Nat :=
    match f.scale bits - 2 with
    | .ofNat n => (Nat.pow 2 n, 1)
    | .negSucc n => (1, Nat.pow 2 (n + 1))
  let (unit, grid) : Nat × Nat :=
    match k with
    | .ofNat n => (unit, grid * Nat.pow 10 n)
    | .negSucc n => (unit * Nat.pow 10 (n + 1), grid)
  -- The ends of the interval round to the even neighbour
  let even := f.significand bits % 2 = 0
  let inside (c : Nat) : Bool :=
    if even then low * unit ≤ c * grid && c * grid ≤ high * unit
    else low * unit < c * grid && c * grid < high * unit
  let c := here * unit / grid
  match inside c, inside (c + 1) with
  | true, true =>
    if 2 * (here * unit) < (2 * c + 1) * grid then some c
    else if (2 * c + 1) * grid < 2 * (here * unit) then some (c + 1)
    else some (c + c % 2)
  | true, false => some c
  | false, true => some (c + 1)
  | false, false => none

/-- The first grid with a hit, going down from `10 ^ k`. -/
def firstGrid (f : Format) (bits : Nat) : Nat → Int → Decimal
  | 0, k => ⟨(f.onGrid bits k).getD 0, k⟩
  | fuel + 1, k =>
    match f.onGrid bits k with
    | some c => ⟨c, k⟩
    | none => firstGrid f bits fuel (k - 1)

/-- The decimal with the fewest digits that rounds to a finite magnitude; of several, the nearest. -/
def shortest (f : Format) (bits : Nat) : Decimal :=
  let m := f.significand bits
  if m = 0 then ⟨0, 0⟩
  else
    -- A power of ten above the magnitude: `log10 2` is a little below `30103 / 100000`.
    let top := (Int.ofNat m.log2 + f.scale bits + 1) * 30103 / 100000 + 2
    -- Seventeen digits always suffice, and the start is at most four powers too high.
    f.firstGrid bits 24 top

/-- A finite magnitude times `10 ^ places`, to the nearest natural number. -/
def onPlaces (f : Format) (bits places : Nat) : Nat :=
  let (num, den) := f.toRatio bits
  roundDiv (num * Nat.pow 10 places) den

/-- The magnitude nearest to `digits * 10 ^ exponent`. -/
def ofDecimal (f : Format) (d : Decimal) : Nat :=
  let top := (digitsOf d.digits).length + d.exponent
  if d.digits = 0 then 0
  -- Four hundred places before the point are beyond every format here, as many zeros behind it below it
  else if 400 < top then f.infinity
  else if top < -400 then 0
  else
    match d.exponent with
    | .ofNat n => f.ofRatio (d.digits * Nat.pow 10 n) 1
    | .negSucc n => f.ofRatio d.digits (Nat.pow 10 (n + 1))

end Format

namespace Decimal

/-- The positional text: no exponent, and a point only where there are places after it. -/
def plain (d : Decimal) : List Char :=
  let ds := digitsOf d.digits
  match d.exponent with
  | .ofNat n => if d.digits = 0 then ['0'] else ds ++ zeros n
  | .negSucc n =>
    let places := n + 1
    if ds.length ≤ places then '0' :: '.' :: zeros (places - ds.length) ++ ds
    else ds.take (ds.length - places) ++ '.' :: ds.drop (ds.length - places)

end Decimal

end TelemetryGateway.Number
