import TelemetryGateway.Number.Real
import TelemetryGateway.Text.Integer

/-!
# Numbers in JSON texts

A numeral keeps the parts of a number as they are written, so that `1`, `1.0` and `-0` stay apart. Its
value is an integer if it is written without point and exponent and fits sixty-four bits; otherwise it
is a double. A double is computed from the leading digits that fit a natural number of sixty-four
bits, scaled by one power of ten in double arithmetic; a result beyond the finite doubles is no value.

## Main definitions

- `Numeral`: the parts of a number
- `Quantity`: an integer or a double
- `Numeral.quantity?`: the value of a numeral
-/

namespace TelemetryGateway.Json

open TelemetryGateway.Number
open TelemetryGateway.Text (Integer.minInt64 Integer.maxUInt64)

/-- A number as it is written. -/
structure Numeral where
  /-- It starts with a minus sign. -/
  negative : Bool
  /-- The digits before the point. -/
  whole : List Char
  /-- The digits after the point, if there is one. -/
  places : Option (List Char)
  /-- The exponent, if one is written. -/
  exponent : Option Int
deriving DecidableEq, Repr

/-- The value of a numeral. -/
inductive Quantity where
  | int (n : Int)
  | double (x : Float)

/-- The leading digits of a number, as far as they fit sixty-four bits, and the power of ten of the
last of them. -/
structure Leading where
  kept : Nat
  /-- The power of ten of the last digit kept. -/
  exponent : Int
  /-- A digit has been left out. -/
  full : Bool

namespace Leading

/-- One digit before the point. The digits after one that does not fit are left out as well. -/
def takeWhole (l : Leading) (c : Char) : Leading :=
  let n := l.kept * 10 + (c.toNat - 48)
  if l.full ∨ Integer.maxUInt64 < n then { l with exponent := l.exponent + 1, full := true }
  else { l with kept := n }

/-- One digit after the point. The digits after one that does not fit are left out as well. -/
def takePlace (l : Leading) (c : Char) : Leading :=
  let n := l.kept * 10 + (c.toNat - 48)
  if l.full ∨ Integer.maxUInt64 < n then { l with full := true }
  else { l with kept := n, exponent := l.exponent - 1 }

end Leading

/-- A power of ten as a double. -/
def powerOfTen (n : Nat) : Float :=
  Real.ofMagnitude false (binary64.ofDecimal ⟨1, n⟩)

/-- A double times a power of ten: one multiplication or division by a power up to `1e308`, after as
many divisions by `1e308` as a lower power asks for. -/
def scaleByTen (x : Float) (e : Int) : Nat → Option Float
  -- After three divisions nothing is left
  | 0 => some (x * 0)
  | rounds + 1 =>
    if e.natAbs ≤ 308 then
      let y := if 0 ≤ e then x * powerOfTen e.natAbs else x / powerOfTen e.natAbs
      if y.isInf then none else some y
    else if x == 0 then some x
    else if 0 ≤ e then none
    else scaleByTen (x / powerOfTen 308) (e + 308) rounds

namespace Numeral

/-- The integer that a numeral without point and exponent writes. -/
def written? (n : Numeral) : Option Int :=
  match n.places, n.exponent with
  | none, none =>
    let v := Real.valueOf n.whole
    -- `-0` is a double, since an integer would lose the sign
    if n.negative then (if v = 0 then none else some (-(v : Int))) else some v
  | _, _ => none

/-- The integer value of a numeral, if it has one of sixty-four bits. -/
def int? (n : Numeral) : Option Int :=
  n.written?.filter fun v => Integer.minInt64 ≤ v ∧ v ≤ Integer.maxUInt64

def leading (n : Numeral) : Leading :=
  let l := n.whole.foldl Leading.takeWhole ⟨0, 0, false⟩
  -- A place may fit again where a digit before the point did not
  let l := (n.places.getD []).foldl Leading.takePlace { l with full := false }
  { l with exponent := l.exponent + n.exponent.getD 0 }

def double? (n : Numeral) : Option Float :=
  let l := n.leading
  (scaleByTen (UInt64.ofNat l.kept).toFloat l.exponent 4).map fun x => if n.negative then -x else x

def quantity? (n : Numeral) : Option Quantity :=
  match n.int? with
  | some v => some (.int v)
  | none => n.double?.map .double

end Numeral

namespace Quantity

def toDouble : Quantity → Float
  | .int n => Real.ofMagnitude (n < 0) (binary64.ofRatio n.natAbs 1)
  | .double x => x

/-- The value as a single: the nearest one to an integer or to the double. -/
def toSingle : Quantity → Single
  | .int n => Single.ofInt n
  | .double x => Single.ofDouble x.toBits

end Quantity

end TelemetryGateway.Json
