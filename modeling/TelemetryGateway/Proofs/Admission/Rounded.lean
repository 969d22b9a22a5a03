import Mathlib
import TelemetryGateway.Proofs.Admission.Exact
import TelemetryGateway.Proofs.Number.Quantity

/-!
# Rounded token counts

An arithmetic whose operations give the exact result, rounded. What comes back to a bucket in a span of time is then
never negative and never no number, however it is rounded.

## Main definitions

- `Rounds`: an arithmetic that rounds, each operation in its own way
- `Rounded`: the quantities themselves, under any roundings

## Main statements

- `accrued_nonneg`: what comes back
- `min_between`: a count that is capped
-/

namespace TelemetryGateway.Admission

open Number (Quantity Rounding)

/-- The operations that round. -/
inductive Operation where
  | convert | add | sub | mul | div

/-- An arithmetic whose operations give the exact results rounded. What becomes of a division by zero is left open. -/
class Rounds (α : Type) [Arithmetic α] where
  rounding : Operation → Rounding
  quantity : α → Quantity
  quantity_ofNat (n : Nat) : quantity (Arithmetic.ofNat n) = (rounding .convert).round n
  quantity_add (a b : α) : quantity (Arithmetic.add a b) = (quantity a).sum (rounding .add) (quantity b)
  quantity_sub (a b : α) : quantity (Arithmetic.sub a b) = (quantity a).sum (rounding .sub) (quantity b).neg
  quantity_mul (a b : α) : quantity (Arithmetic.mul a b) = (quantity a).product (rounding .mul) (quantity b)
  quantity_div (a b : α) : quantity b ≠ .number 0 →
    quantity (Arithmetic.div a b) = (quantity a).quotient (rounding .div) (quantity b)
  le_eq (a b : α) : Arithmetic.le a b = (quantity a).le (quantity b)
  lt_eq (a b : α) : Arithmetic.lt a b = (quantity a).lt (quantity b)
  finite_eq (a : α) : Arithmetic.finite a = (quantity a).isNumber

/-! ## No rounding -/

instance : Rounds ℚ where
  rounding _ := .exact
  quantity := .number
  quantity_ofNat _ := rfl
  quantity_add _ _ := rfl
  quantity_sub a b := congrArg Quantity.number (sub_eq_add_neg a b)
  quantity_mul _ _ := rfl
  quantity_div a b h := by
    have hb : b ≠ 0 := fun h0 => h (congrArg Quantity.number h0)
    simp only [Quantity.quotient, if_neg hb]
    rfl
  le_eq _ _ := rfl
  lt_eq _ _ := rfl
  finite_eq _ := rfl

/-! ## Any roundings -/

/-- Quantities, with a rounding for each operation. -/
def Rounded (_ρ : Operation → Rounding) : Type := Quantity

instance (ρ : Operation → Rounding) : Arithmetic (Rounded ρ) where
  ofNat n := (ρ .convert).round n
  add := Quantity.sum (ρ .add)
  sub a b := Quantity.sum (ρ .sub) a (Quantity.neg b)
  mul := Quantity.product (ρ .mul)
  div := Quantity.quotient (ρ .div)
  le := Quantity.le
  lt := Quantity.lt
  finite := Quantity.isNumber
  ceilUpTo bound
    | .number q => min bound ⌈q⌉₊
    | .infinite false => bound
    | _ => 0

instance (ρ : Operation → Rounding) : Rounds (Rounded ρ) where
  rounding := ρ
  quantity a := a
  quantity_ofNat _ := rfl
  quantity_add _ _ := rfl
  quantity_sub _ _ := rfl
  quantity_mul _ _ := rfl
  quantity_div _ _ _ := rfl
  le_eq _ _ := rfl
  lt_eq _ _ := rfl
  finite_eq _ := rfl

/-! ## What comes back to a bucket -/

section Rounds

open Arithmetic (ofNat)
open Rounds (quantity rounding)

variable {α : Type} [Arithmetic α] [Rounds α]

theorem quantity_ofNat_of_le {n : Nat} (h : n ≤ 2 ^ 32) : quantity (ofNat n : α) = .number n := by
  rw [Rounds.quantity_ofNat, Rounding.natCast _ h]

/-- Counts are in the order of the natural numbers they count. -/
theorem le_ofNat {m n : Nat} (h : m ≤ n) : Arithmetic.le (ofNat m : α) (ofNat n) = true := by
  rw [Rounds.le_eq, Rounds.quantity_ofNat, Rounds.quantity_ofNat]
  exact Rounding.mono _ (Nat.cast_le.2 h)

theorem quantity_ofNat_nonneg (n : Nat) : (quantity (ofNat n : α)).Nonneg := by
  rw [Rounds.quantity_ofNat]
  exact Rounding.round_nonneg _ n.cast_nonneg

theorem seconds_nonneg (nanos : Nat) : (quantity (seconds nanos : α)).Nonneg := by
  have hper : quantity (ofNat nanosPerSecond : α) = .number nanosPerSecond := quantity_ofNat_of_le (by decide)
  have hpos : (0 : ℚ) < nanosPerSecond := by norm_num [nanosPerSecond]
  rw [seconds, Rounds.quantity_add, Rounds.quantity_div _ _ (by rw [hper]; simpa using hpos.ne'), hper]
  exact Rounding.sum_nonneg _ (quantity_ofNat_nonneg _) (Rounding.quotient_nonneg _ (quantity_ofNat_nonneg _) hpos)

/-- A rate is a positive number. -/
theorem Rate.exists_quantity (r : Rate α) : ∃ q : ℚ, quantity r.perSecond = .number q ∧ 0 < q := by
  have hfinite := r.isFinite
  have hpositive := r.isPositive
  rw [Rounds.finite_eq] at hfinite
  rw [Rounds.lt_eq, quantity_ofNat_of_le (Nat.zero_le _)] at hpositive
  cases hquantity : quantity r.perSecond with
  | number q =>
    rw [hquantity] at hpositive
    refine ⟨q, rfl, ?_⟩
    simpa [Quantity.lt] using hpositive
  | infinite s =>
    rw [hquantity] at hfinite
    cases hfinite
  | invalid =>
    rw [hquantity] at hfinite
    cases hfinite

/-- What comes back in a span of time may be too small to be seen or too great to be counted, but it is never negative,
and never no number. -/
theorem accrued_nonneg (r : Rate α) (nanos : Nat) : (quantity (r.accrued nanos)).Nonneg := by
  obtain ⟨q, hq, hpos⟩ := r.exists_quantity
  rw [Rate.accrued, Rounds.quantity_mul, hq]
  exact Rounding.product_nonneg _ (seconds_nonneg nanos) hpos

/-- A count is a number between zero and a bound. -/
def Between (bound : Nat) (a : α) : Prop :=
  ∃ q : ℚ, quantity a = .number q ∧ 0 ≤ q ∧ q ≤ bound

theorem between_ofNat {n : Nat} (h : n ≤ 2 ^ 32) : Between n (ofNat n : α) :=
  ⟨n, quantity_ofNat_of_le h, n.cast_nonneg, le_refl _⟩

/-- What is not negative is a count once it is capped. -/
theorem min_between {a b : α} {n : Nat} (ha : (quantity a).Nonneg) (hb : quantity b = .number n) :
    Between n (Arithmetic.min a b) := by
  have hself : Between n b := ⟨n, hb, n.cast_nonneg, le_refl _⟩
  simp only [Arithmetic.min, Rounds.le_eq, hb]
  split
  · next hle =>
    obtain ⟨p, hp, hpos⟩ | hp := Quantity.nonneg_cases ha
    · rw [hp] at hle
      exact ⟨p, hp, hpos, of_decide_eq_true hle⟩
    · rw [hp] at hle
      cases hle
  · exact hself

end Rounds

end TelemetryGateway.Admission
