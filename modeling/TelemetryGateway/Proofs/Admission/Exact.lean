import Mathlib
import TelemetryGateway.Admission.Bucket

/-!
# Exact token counts

The operations of a bucket on rational numbers, where nothing is rounded and nothing overflows. What
holds of a bucket here holds of every run in which no operation rounds.

## Main definitions

- `Call.answer`: what a call is told that finds so many tokens
- `Reply.cost`: the tokens that go with an answer

## Main statements

- `seconds_eq`, `Rate.accrued_eq`: spans of time and what comes back in them, as plain quotients
- `Bucket.refill_tokens`: a refill as one capped sum
- `Bucket.call_eq`: a call as an answer to what it finds, and what the answer costs
-/

namespace TelemetryGateway.Admission

/-- Rational numbers, with the operations as they are. -/
instance : Arithmetic ℚ where
  ofNat n := n
  add := (· + ·)
  sub := (· - ·)
  mul := (· * ·)
  div := (· / ·)
  le a b := a ≤ b
  lt a b := a < b
  finite _ := true
  ceilUpTo bound x := min bound ⌈x⌉₊

/-! ## The operations -/

@[simp] theorem ofNat_eq (n : Nat) : (Arithmetic.ofNat n : ℚ) = n := rfl

@[simp] theorem add_eq (a b : ℚ) : Arithmetic.add a b = a + b := rfl

@[simp] theorem sub_eq (a b : ℚ) : Arithmetic.sub a b = a - b := rfl

@[simp] theorem mul_eq (a b : ℚ) : Arithmetic.mul a b = a * b := rfl

@[simp] theorem div_eq (a b : ℚ) : Arithmetic.div a b = a / b := rfl

@[simp] theorem le_eq (a b : ℚ) : Arithmetic.le a b = decide (a ≤ b) := rfl

@[simp] theorem lt_eq (a b : ℚ) : Arithmetic.lt a b = decide (a < b) := rfl

@[simp] theorem finite_eq (a : ℚ) : Arithmetic.finite a = true := rfl

@[simp] theorem min_eq (a b : ℚ) : Arithmetic.min a b = min a b := by
  simp only [Arithmetic.min, le_eq, decide_eq_true_eq]
  rfl

/-! ## Rates -/

theorem Rate.perSecond_pos (r : Rate ℚ) : 0 < r.perSecond := by
  have h := r.isPositive
  simpa using h

/-- The whole seconds and the rest make up the span. -/
theorem seconds_eq (nanos : Nat) : (seconds nanos : ℚ) = nanos / nanosPerSecond := by
  have hpos : (nanosPerSecond : ℚ) ≠ 0 := by norm_num [nanosPerSecond]
  -- Whole seconds and rest are counted apart, and make up the span again
  have hsplit : (nanosPerSecond * (nanos / nanosPerSecond) + nanos % nanosPerSecond : ℕ) = nanos :=
    Nat.div_add_mod nanos nanosPerSecond
  simp only [seconds, add_eq, div_eq, ofNat_eq]
  rw [eq_div_iff hpos, add_mul, div_mul_cancel₀ _ hpos, mul_comm]
  exact_mod_cast hsplit

theorem Rate.accrued_eq (r : Rate ℚ) (nanos : Nat) :
    r.accrued nanos = r.perSecond * nanos / nanosPerSecond := by
  simp only [Rate.accrued, mul_eq, seconds_eq]
  ring

/-! ## Refills -/

namespace Bucket

/-- What a refill at any instant leaves: the tokens of the time by which the clock moves, up to the
capacity. The instants at or before the clock are no case of their own, since nothing is added there. -/
theorem refill_tokens (b : Bucket ℚ) (now : Nat) (hcap : b.tokens ≤ b.burst.toNat) :
    (b.refill now).tokens =
      min (b.tokens + b.rate.perSecond * ((max b.lastRefill now : Nat) - b.lastRefill) / nanosPerSecond)
        b.burst.toNat := by
  simp only [refill]
  split
  -- The clock stands still: nothing is added, and the cap changes nothing
  · next h =>
    have hmax : max b.lastRefill now = b.lastRefill := by omega
    rw [hmax, sub_self, mul_zero, zero_div, add_zero, min_eq_left hcap]
  -- The clock moves on
  · next h =>
    have hmax : max b.lastRefill now = now := by omega
    have hsub : ((now - b.lastRefill : Nat) : ℚ) = now - b.lastRefill := by
      rw [Nat.cast_sub (by omega)]
    simp only [min_eq, add_eq, Rate.accrued_eq, capacity, ofNat_eq, hmax, hsub]

end Bucket

/-! ## Calls -/

/-- What a call is told that finds so many tokens. -/
def Call.answer (found : ℚ) : Call → Reply ℚ
  | .acquire _ => .admitted (decide (1 ≤ found))
  | .available _ => .tokens found

/-- The tokens that go with an answer: one if it lets a request through, otherwise none. -/
def Reply.cost : Reply ℚ → ℚ
  | .admitted true => 1
  | _ => 0

theorem Reply.cost_nonneg (r : Reply ℚ) : 0 ≤ r.cost := by
  unfold Reply.cost
  split
  · exact zero_le_one
  · exact le_rfl

/-- An answer never costs more than the call has found. -/
theorem Call.cost_answer_le {found : ℚ} (h : 0 ≤ found) (c : Call) : (c.answer found).cost ≤ found := by
  cases c with
  | acquire now =>
    by_cases hle : 1 ≤ found
    · simp only [answer, hle, decide_true, Reply.cost]
    · simpa only [answer, hle, decide_false, Reply.cost] using h
  | available now => exact h

/-- Every call refills the bucket and answers what it then finds; the cost of the answer is all that it
takes out. -/
theorem Bucket.call_eq (b : Bucket ℚ) (c : Call) :
    b.call c =
      (c.answer (b.refill c.now).tokens,
        { b.refill c.now with
          tokens := (b.refill c.now).tokens - (c.answer (b.refill c.now).tokens).cost }) := by
  cases c with
  | acquire now =>
    simp only [Bucket.call, Bucket.acquire, Call.now, Call.answer, le_eq, ofNat_eq, Nat.cast_one, sub_eq]
    by_cases hle : 1 ≤ (b.refill now).tokens
    · simp only [hle, decide_true, if_true, Reply.cost]
    · simp only [hle, decide_false, Bool.false_eq_true, if_false, Reply.cost, sub_zero]
  | available now => simp only [Bucket.call, Bucket.available, Call.now, Call.answer, Reply.cost, sub_zero]

end TelemetryGateway.Admission
