import Mathlib

/-!
# Rounded quantities

What an operation on floating numbers gives: a number, an infinity, or no number. An operation gives the exact result,
rounded. Of a rounding no more is asked than that it is monotone and keeps the natural numbers up to `2 ^ 32`; small
results may become zero, and great ones infinite.

## Main definitions

- `Quantity`: a number, an infinity, or no number, and its order
- `Rounding`: a monotone rounding
- `Quantity.sum`, `Quantity.product`, `Quantity.quotient`: exact results, rounded

## Main statements

- `Rounding.round_between`: a result between two natural numbers stays between them
- `Rounding.sum_nonneg`, `Rounding.product_nonneg`, `Rounding.quotient_nonneg`: no result is less than nothing
-/

namespace TelemetryGateway.Number

/-- What an operation gives: a number, an infinity, or no number. -/
inductive Quantity where
  | number (q : ℚ)
  | infinite (negative : Bool)
  | invalid
deriving DecidableEq

namespace Quantity

def isNumber : Quantity → Bool
  | .number _ => true
  | _ => false

/-- Decides the order, in which there is no place for what is no number. -/
def le : Quantity → Quantity → Bool
  | .number a, .number b => a ≤ b
  | .infinite s, .infinite t => s || !t
  | .infinite s, .number _ => s
  | .number _, .infinite t => !t
  | _, _ => false

def lt : Quantity → Quantity → Bool
  | .number a, .number b => a < b
  | .infinite s, .infinite t => s && !t
  | .infinite s, .number _ => s
  | .number _, .infinite t => !t
  | _, _ => false

def neg : Quantity → Quantity
  | .number a => .number (-a)
  | .infinite s => .infinite !s
  | .invalid => .invalid

/-- The infinity of the sign of a number; zero has none. -/
def infinity (q : ℚ) (negative : Bool) : Quantity :=
  if q = 0 then .invalid else .infinite (negative != decide (q < 0))

end Quantity

/-- A rounding of exact results: monotone, it keeps the natural numbers up to `2 ^ 32`, and a result may be too great
for it. -/
structure Rounding where
  round : ℚ → Quantity
  mono {x y : ℚ} : x ≤ y → (round x).le (round y) = true
  natCast {n : Nat} : n ≤ 2 ^ 32 → round n = .number n

namespace Quantity

variable (ρ : Rounding)

/-- The sum, rounded. -/
def sum : Quantity → Quantity → Quantity
  | .number a, .number b => ρ.round (a + b)
  | .infinite s, .infinite t => if s = t then .infinite s else .invalid
  | .infinite s, .number _ | .number _, .infinite s => .infinite s
  | _, _ => .invalid

/-- The product, rounded. -/
def product : Quantity → Quantity → Quantity
  | .number a, .number b => ρ.round (a * b)
  | .infinite s, .infinite t => .infinite (s != t)
  | .infinite s, .number a | .number a, .infinite s => infinity a s
  | _, _ => .invalid

/-- The quotient, rounded. -/
def quotient : Quantity → Quantity → Quantity
  | .number a, .number b => if b = 0 then infinity a false else ρ.round (a / b)
  | .infinite s, .number b => .infinite (s != decide (b < 0))
  | .number _, .infinite _ => .number 0
  | _, _ => .invalid

end Quantity

/-- Exact results, kept as they are. -/
def Rounding.exact : Rounding where
  round := .number
  mono h := decide_eq_true h
  natCast _ := rfl

/-! ## Results that are not negative -/

namespace Quantity

/-- A number or an infinity, and not negative. -/
def Nonneg (x : Quantity) : Prop := le (.number 0) x = true

theorem nonneg_cases {x : Quantity} (h : x.Nonneg) : (∃ q, x = .number q ∧ 0 ≤ q) ∨ x = .infinite false := by
  cases x with
  | number q => exact .inl ⟨q, rfl, of_decide_eq_true h⟩
  | infinite s =>
    cases s with
    | false => exact .inr rfl
    | true => cases h
  | invalid => cases h

theorem nonneg_number {q : ℚ} (h : 0 ≤ q) : Nonneg (.number q) := decide_eq_true h

end Quantity

namespace Rounding

open Quantity

variable (ρ : Rounding)

@[simp] theorem round_zero : ρ.round 0 = .number 0 := by
  have h := ρ.natCast (Nat.zero_le (2 ^ 32))
  simpa using h

theorem round_nonneg {x : ℚ} (h : 0 ≤ x) : (ρ.round x).Nonneg := by
  have hmono := ρ.mono h
  rwa [ρ.round_zero] at hmono

/-- A result between two natural numbers that are kept stays between them, and so it does not overflow. -/
theorem round_between {x : ℚ} {m n : Nat} (hm : m ≤ x) (hn : x ≤ n) (hkept : n ≤ 2 ^ 32) :
    ∃ q, ρ.round x = .number q ∧ m ≤ q ∧ q ≤ n := by
  have hmn : m ≤ n := by exact_mod_cast hm.trans hn
  have hlow := ρ.mono hm
  have hhigh := ρ.mono hn
  rw [ρ.natCast (hmn.trans hkept)] at hlow
  rw [ρ.natCast hkept] at hhigh
  cases hround : ρ.round x with
  | number q =>
    rw [hround] at hlow hhigh
    exact ⟨q, rfl, of_decide_eq_true hlow, of_decide_eq_true hhigh⟩
  | infinite s =>
    rw [hround] at hlow hhigh
    cases s <;> [cases hhigh; cases hlow]
  | invalid =>
    rw [hround] at hlow
    cases hlow

theorem sum_nonneg {a b : Quantity} (ha : a.Nonneg) (hb : b.Nonneg) : (a.sum ρ b).Nonneg := by
  obtain ⟨p, rfl, hp⟩ | rfl := nonneg_cases ha
  · obtain ⟨q, rfl, hq⟩ | rfl := nonneg_cases hb
    · exact ρ.round_nonneg (add_nonneg hp hq)
    · rfl
  · obtain ⟨q, rfl, hq⟩ | rfl := nonneg_cases hb <;> rfl

/-- Times a positive number, also an infinity is what it was. -/
theorem product_nonneg {a : Quantity} {q : ℚ} (ha : a.Nonneg) (hq : 0 < q) : (a.product ρ (.number q)).Nonneg := by
  obtain ⟨p, rfl, hp⟩ | rfl := nonneg_cases ha
  · exact ρ.round_nonneg (mul_nonneg hp hq.le)
  · simp only [product, infinity, if_neg hq.ne', decide_eq_false hq.not_gt]
    rfl

theorem quotient_nonneg {a : Quantity} {q : ℚ} (ha : a.Nonneg) (hq : 0 < q) : (a.quotient ρ (.number q)).Nonneg := by
  obtain ⟨p, rfl, hp⟩ | rfl := nonneg_cases ha
  · simp only [quotient, if_neg hq.ne']
    exact ρ.round_nonneg (div_nonneg hp hq.le)
  · simp only [quotient, decide_eq_false hq.not_gt]
    rfl

end Rounding

end TelemetryGateway.Number
