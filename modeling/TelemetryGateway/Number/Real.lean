import TelemetryGateway.Number.Decimal

/-!
# Real numbers in text

Double-precision numbers as people write them in settings and read them in messages, and as JSON
writes them.

## Main definitions

- `Double`: a double-precision number by its bits, so that also what is no number keeps its sign
- `Double.read?`: an optional sign, then `inf`, `infinity` or `nan` in any case, or digits with an
  optional point and an optional exponent, to the nearest double
- `Double.plain`: the fewest digits that read back, never an exponent
- `Real.ceilUpTo`: the next whole number, up to a bound
- `Real.onPlaces`: a fixed count of decimal places
- `Single`: a single-precision number by its bits, with the same texts
-/

namespace TelemetryGateway.Number

/-- How a shortest decimal is laid out: the leading powers of ten that are written positionally. -/
structure Layout where
  /-- The least power of ten of the first digit that is written without an exponent. -/
  least : Int
  greatest : Int

namespace Layout

/-- JSON numbers of double precision: positional from `0.00001` up to, not including, `1e+16`. -/
def double : Layout := ⟨-5, 15⟩

/-- JSON numbers of single precision: positional from `0.000001` up to, not including, `1e+13`. -/
def single : Layout := ⟨-6, 12⟩

/-- The digits with a point after the first one, if there are more. -/
def pointed : List Char → List Char
  | [] => []
  | [c] => [c]
  | c :: cs => c :: '.' :: cs

/-- An exponent with its sign and at least two digits. -/
def exponent (e : Int) : List Char :=
  let ds := digitsOf e.natAbs
  let ds := if ds.length < 2 then '0' :: ds else ds
  (if e < 0 then '-' else '+') :: ds

/-- The JSON text of a decimal: a fraction always shows a point, also `.0`. -/
def write (l : Layout) (d : Decimal) : List Char :=
  let ds := digitsOf d.digits
  let lead := d.exponent + ds.length - 1
  if l.least ≤ lead ∧ lead ≤ l.greatest then
    if 0 ≤ d.exponent then d.plain ++ ['.', '0'] else d.plain
  else pointed ds ++ 'e' :: exponent lead

end Layout

namespace Real

def negative (bits : UInt64) : Bool :=
  0x8000000000000000 ≤ bits

def magnitude (bits : UInt64) : Nat :=
  bits.toNat % binary64.signBit

def finite (bits : UInt64) : Bool :=
  magnitude bits < binary64.infinity

/-- The pattern of a sign and a magnitude. -/
def signed (negative : Bool) (bits : Nat) : UInt64 :=
  UInt64.ofNat (if negative then binary64.signBit + bits else bits)

def ofMagnitude (negative : Bool) (bits : Nat) : Float :=
  Float.ofBits (signed negative bits)

/-- The least natural number that is not below a double, and a bound where that is less. What is no number
has none, and zero stands for it. -/
def ceilUpTo (bound : Nat) (bits : UInt64) : Nat :=
  if negative bits || binary64.infinity < magnitude bits then 0
  else if magnitude bits = binary64.infinity then bound
  else
    let (num, den) := binary64.toRatio (magnitude bits)
    min bound ((num + den - 1) / den)

theorem ceilUpTo_le (bound : Nat) (bits : UInt64) : ceilUpTo bound bits ≤ bound := by
  simp only [ceilUpTo]
  split
  · exact Nat.zero_le bound
  · split
    · exact Nat.le_refl bound
    · exact Nat.min_le_left ..

/-- The decimal digits at the front, and what follows them. -/
def spanDigits (cs : List Char) : List Char × List Char :=
  (cs.takeWhile Char.isDigit, cs.dropWhile Char.isDigit)

def valueOf (ds : List Char) : Nat :=
  ds.foldl (fun n d => n * 10 + (d.toNat - 48)) 0

/-- The exponent at the end of a number: nothing, or `e` with an optional sign and digits. -/
def exponent? : List Char → Option Int
  | [] => some 0
  | e :: cs =>
    if e = 'e' ∨ e = 'E' then
      let (negative, ds) := match cs with
        | '-' :: rest => (true, rest)
        | '+' :: rest => (false, rest)
        | _ => (false, cs)
      if ds ≠ [] ∧ ds.all Char.isDigit then
        some (if negative then -(valueOf ds : Int) else valueOf ds)
      else none
    else none

/-- Digits with an optional point, at least one of them, and an optional exponent. -/
def decimal? (cs : List Char) : Option Decimal :=
  let (whole, rest) := spanDigits cs
  let (places, rest) := match rest with
    | '.' :: more => spanDigits more
    | _ => ([], rest)
  if whole = [] ∧ places = [] then none
  else (exponent? rest).map fun e => ⟨valueOf (whole ++ places), e - places.length⟩

/-- The magnitude that a text without its sign spells. -/
def magnitude? (cs : List Char) : Option Nat :=
  let lower := String.ofList (cs.map Char.toLower)
  if lower = "inf" ∨ lower = "infinity" then some binary64.infinity
  else if lower = "nan" then some binary64.notANumber
  else (decimal? cs).map binary64.ofDecimal

/-- A finite double that is not negative, on a fixed count of places after the point. -/
def onPlaces (x : Float) (places : Nat) : String :=
  let n := binary64.onPlaces (magnitude x.toBits) places
  let ds := digitsOf n
  let ds := zeros (places + 1 - ds.length) ++ ds
  String.ofList (ds.take (ds.length - places) ++ '.' :: ds.drop (ds.length - places))

/-- The JSON text of a finite double. -/
def json (bits : UInt64) : String :=
  let body := Layout.double.write (binary64.shortest (magnitude bits))
  String.ofList (if negative bits then '-' :: body else body)

end Real

/-- A double-precision number, by its bits. -/
structure Double where
  bits : UInt64
deriving DecidableEq, Inhabited, Repr

namespace Double

def zero : Double := ⟨0⟩

def toFloat (x : Double) : Float := Float.ofBits x.bits

def ofInt (n : Int) : Double :=
  ⟨Real.signed (n < 0) (binary64.ofRatio n.natAbs 1)⟩

def finite (x : Double) : Bool := Real.finite x.bits

/-- The number is greater than zero. -/
def positive (x : Double) : Bool :=
  !Real.negative x.bits && 0 < Real.magnitude x.bits && Real.magnitude x.bits ≤ binary64.infinity

def read? (s : String) : Option Double :=
  match s.toList with
  | '-' :: cs => (Real.magnitude? cs).map fun n => ⟨Real.signed true n⟩
  | '+' :: cs => (Real.magnitude? cs).map fun n => ⟨Real.signed false n⟩
  | cs => (Real.magnitude? cs).map fun n => ⟨Real.signed false n⟩

/-- The fewest digits that read back, never an exponent. What is no number has no sign there. -/
def plain (x : Double) : String :=
  let body : List Char :=
    if Real.finite x.bits then (binary64.shortest (Real.magnitude x.bits)).plain else "inf".toList
  if binary64.infinity < Real.magnitude x.bits then "NaN"
  else String.ofList (if Real.negative x.bits then '-' :: body else body)

end Double

/-- A single-precision number, by its bits. -/
structure Single where
  bits : UInt32
deriving DecidableEq, Inhabited, Repr

namespace Single

def zero : Single := ⟨0⟩

/-- The number equals zero, whatever its sign. -/
def isZero (x : Single) : Bool :=
  x.bits == 0 || x.bits == 0x80000000

def negative (x : Single) : Bool :=
  0x80000000 ≤ x.bits

def magnitude (x : Single) : Nat :=
  x.bits.toNat % binary32.signBit

def finite (x : Single) : Bool :=
  x.magnitude < binary32.infinity

def ofMagnitude (negative : Bool) (bits : Nat) : Single :=
  ⟨UInt32.ofNat (if negative then binary32.signBit + bits else bits)⟩

def ofInt (n : Int) : Single :=
  ofMagnitude (n < 0) (binary32.ofRatio n.natAbs 1)

def ofDouble (bits : UInt64) : Single :=
  ofMagnitude (Real.negative bits) (binary64.convert binary32 (Real.magnitude bits))

/-- The double nearest to the shortest decimal of a finite single. -/
def toDouble (x : Single) : UInt64 :=
  (Real.ofMagnitude x.negative (binary64.ofDecimal (binary32.shortest x.magnitude))).toBits

/-- The JSON text of a finite single. -/
def json (x : Single) : String :=
  let body := Layout.single.write (binary32.shortest x.magnitude)
  String.ofList (if x.negative then '-' :: body else body)

end Single

end TelemetryGateway.Number
