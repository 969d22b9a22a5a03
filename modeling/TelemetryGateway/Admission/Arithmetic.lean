import TelemetryGateway.Number.Real

/-!
# Number operations of a token bucket

Token counts are numbers of some type with a few operations. The gateway counts in doubles; the
operations are named so that what a bucket does can be said of any arithmetic, exact or rounded.

## Main definitions

- `Arithmetic`: the operations
- the operations on `Float`
-/

namespace TelemetryGateway.Admission

/-- The operations that token counts rest on. -/
class Arithmetic (α : Type) where
  /-- The number nearest to a natural number. -/
  ofNat : Nat → α
  add : α → α → α
  sub : α → α → α
  mul : α → α → α
  div : α → α → α
  /-- Decides `a ≤ b`. -/
  le : α → α → Bool
  lt : α → α → Bool
  /-- The number is neither infinite nor no number. -/
  finite : α → Bool
  /-- The least natural number that is not below a number, and the bound where that is less. -/
  ceilUpTo : Nat → α → Nat

namespace Arithmetic

variable {α : Type} [Arithmetic α]

def min (a b : α) : α := if le a b then a else b

end Arithmetic

instance : Arithmetic Float where
  ofNat n := Number.Real.ofMagnitude false (Number.binary64.ofRatio n 1)
  add := (· + ·)
  sub := (· - ·)
  mul := (· * ·)
  div := (· / ·)
  le a b := a ≤ b
  lt a b := a < b
  finite x := x.isFinite
  ceilUpTo bound x := Number.Real.ceilUpTo bound x.toBits

end TelemetryGateway.Admission
