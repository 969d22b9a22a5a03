import Mathlib
import TelemetryGateway.Proofs.Admission.Rounded
import TelemetryGateway.Proofs.Number.Operations

/-!
# Token counts in doubles

The gateway counts in doubles. Each of their operations gives the exact result, rounded to the nearest double or to
infinity, so what holds of every arithmetic that rounds holds of them.

## Main statements

- `quantityOf_ofRatio`: the double of a natural number, however great
- the instance of `Rounds` for `Float`
-/

namespace TelemetryGateway.Admission

open Float.Model.UnpackedFloat (unpack packedInfinity Sign)
open Number
open Number.Double (format)

/-! ## Natural numbers -/

theorem scaled_den_pos (num : Nat) {den : Nat} (hden : 0 < den) (k : ℤ) : 0 < (Number.Format.scaled num den k).2 := by
  cases k with
  | ofNat j => exact Nat.mul_pos hden (Nat.two_pow_pos j)
  | negSucc j => exact hden

/-- A fraction is moved by a power of two. -/
theorem scaled_eq (num den : Nat) (k : ℤ) :
    ((Number.Format.scaled num den k).1 : ℚ) / (Number.Format.scaled num den k).2 = num / den / 2 ^ k := by
  cases k with
  | ofNat j =>
    have hpow : ((den * Nat.pow 2 j : Nat) : ℚ) = den * 2 ^ (Int.ofNat j) := by
      rw [Int.ofNat_eq_natCast, zpow_natCast]
      exact_mod_cast rfl
    rw [Number.Format.scaled, hpow, div_div]
  | negSucc j =>
    have hpow : ((num * Nat.pow 2 (j + 1) : Nat) : ℚ) = num * 2 ^ (j + 1) := by exact_mod_cast rfl
    rw [Number.Format.scaled, hpow, zpow_negSucc, div_inv_eq_mul, div_mul_eq_mul_div]

theorem scaleOf_natCast {n : Nat} (hpos : 0 < n) : scaleOf n = n.log2 - 52 := by
  have hlog : Int.log 2 (n : ℚ) = n.log2 + 0 := by
    apply log_eq_log2 hpos
    · simp
    · simp
  rw [scaleOf, hlog]
  omega

/-- The pattern of a natural number: the significand carries into the exponent where it is rounded up to a power of two,
and infinity is the end. -/
theorem ofRatio_eq {n : Nat} (hpos : 0 < n) :
    binary64.ofRatio n 1 =
      min ((scaleOf n + 1074).toNat * 2 ^ 52 + nearest (n / 2 ^ scaleOf n)) (2047 * 2 ^ 52) := by
  have hlead : binary64.leadingBit = 2 ^ 52 := rfl
  have hmin : binary64.minScale = -1074 := rfl
  have hinf : binary64.infinity = 2047 * 2 ^ 52 := rfl
  have hfirst : Int.ofNat n.log2 - Int.ofNat (Nat.log2 1) - Int.ofNat (binary64.precision - 1) = scaleOf n := by
    rw [scaleOf_natCast hpos]
    show (n.log2 : ℤ) - (0 : Nat) - (52 : Nat) = _
    omega
  have hleast : -1074 < scaleOf n := by
    rw [scaleOf_natCast hpos]
    omega
  have hden := scaled_den_pos n one_pos (scaleOf n)
  have hquotient := scaled_eq n 1 (scaleOf n)
  rw [Nat.cast_one, div_one] at hquotient
  -- At the first scale the quotient has its leading bit already
  have hfull : ¬ (Number.Format.scaled n 1 (scaleOf n)).1 / (Number.Format.scaled n 1 (scaleOf n)).2 < 2 ^ 52 := by
    rw [not_lt, ← Nat.floor_div_eq_div (K := ℚ), hquotient]
    apply Nat.le_floor
    exact_mod_cast le_significand (Nat.cast_pos.2 hpos) hleast
  simp only [Number.Format.ofRatio, if_neg hpos.ne', hfirst, hlead, hmin, hinf, if_neg hfull, max_eq_left hleast.le,
    sub_neg_eq_add, roundDiv_eq _ hden, hquotient]

/-- The number or infinity that a pattern stands for. -/
theorem quantityOf_pattern {m : Nat} {k : ℤ} (hpos : 0 < m) (h : Fits m k) :
    quantityOf (unpack format (BitVec.ofNat 64 (min ((k + 1074).toNat * 2 ^ 52 + m) (2047 * 2 ^ 52)))) =
      .bounded (m * 2 ^ k) := by
  obtain ⟨hlt, hleast, hfull⟩ := id h
  have hsign : Sign.positive.toBitVec.toNat = 0 := rfl
  have hvalue : (0 : ℚ) < m * 2 ^ k := mul_pos (Nat.cast_pos.2 hpos) (power_pos k)
  have hbounded := bounded_signed .positive hvalue
  simp only [h.lt_limit_iff, signed] at hbounded
  rw [hbounded]
  split
  · next hk =>
    obtain ⟨b, hb, hunpack⟩ := exists_pattern .positive hpos h hk
    have hpattern : BitVec.ofNat 64 (min ((k + 1074).toNat * 2 ^ 52 + m) (2047 * 2 ^ 52)) = b := by
      apply BitVec.eq_of_toNat_eq
      rw [hb, hsign, BitVec.toNat_ofNat]
      omega
    rw [hpattern, hunpack]
    rfl
  · next hk =>
    have hpattern : BitVec.ofNat 64 (min ((k + 1074).toNat * 2 ^ 52 + m) (2047 * 2 ^ 52)) =
        packedInfinity format .positive := by
      apply BitVec.eq_of_toNat_eq
      rw [toNat_packedInfinity, hsign, BitVec.toNat_ofNat]
      omega
    rw [hpattern, unpack_packedInfinity]
    rfl

/-- A natural number goes to the nearest double, or to infinity. -/
theorem quantityOf_ofRatio (n : Nat) :
    quantityOf (unpack format (BitVec.ofNat 64 (binary64.ofRatio n 1))) = Rounding.double.round n := by
  obtain rfl | hpos := Nat.eq_zero_or_pos n
  · rw [Nat.cast_zero, Rounding.round_zero]
    rfl
  · have hpos' : (0 : ℚ) < n := Nat.cast_pos.2 hpos
    have hleast : -1074 < scaleOf n := by
      rw [scaleOf_natCast hpos]
      omega
    have hfull := le_nearest_significand hpos' hleast
    rw [ofRatio_eq hpos, Rounding.double_round, roundedSigned_of_nonneg hpos'.le, rounded]
    obtain hlt | heq := (nearest_significand_le n).lt_or_eq
    · exact quantityOf_pattern (by omega) (fits_nearest hpos' hlt)
    -- The significand carries into the exponent
    · have hcarry : (scaleOf n + 1074).toNat * 2 ^ 52 + 2 ^ 53 = (scaleOf n + 1 + 1074).toNat * 2 ^ 52 + 2 ^ 52 := by
        omega
      rw [heq, hcarry, ← carry_eq]
      exact quantityOf_pattern (by norm_num) (fits_full (by omega))

theorem ofNat_eq_ofBits (n : Nat) :
    (Arithmetic.ofNat n : Float) = Float.ofBits (UInt64.ofNat (binary64.ofRatio n 1)) := by
  simp only [Arithmetic.ofNat, Number.Real.ofMagnitude, Number.Real.signed, Bool.false_eq_true, if_false]

theorem unpack_ofNat (n : Nat) :
    (Arithmetic.ofNat n : Float).toModel.unpack = unpack format (BitVec.ofNat 64 (binary64.ofRatio n 1)) := by
  rw [ofNat_eq_ofBits, Number.Double.unpack_ofBits]
  rfl

/-! ## The operations -/

theorem le_unpack (a b : Float) : Arithmetic.le a b = a.toModel.unpack.le b.toModel.unpack := by
  show decide (decide (_ = true) = true) = _
  rw [Bool.decide_eq_true, Bool.decide_eq_true]
  rfl

theorem lt_unpack (a b : Float) : Arithmetic.lt a b = a.toModel.unpack.lt b.toModel.unpack := by
  show decide (decide (_ = true) = true) = _
  rw [Bool.decide_eq_true, Bool.decide_eq_true]
  rfl

theorem isFinite_eq_isNumber (u : Float.Model.UnpackedFloat) : u.isFinite = (quantityOf u).isNumber := by
  cases u <;> rfl

/-- The doubles round to the nearest. -/
instance : Rounds Float where
  rounding _ := .double
  quantity x := quantityOf x.toModel.unpack
  quantity_ofNat n := (congrArg quantityOf (unpack_ofNat n)).trans (quantityOf_ofRatio n)
  quantity_add _ _ := packedQuantity_add (canonical_unpack _) (canonical_unpack _)
  quantity_sub _ _ := packedQuantity_sub (canonical_unpack _) (canonical_unpack _)
  quantity_mul _ _ := packedQuantity_mul (canonical_unpack _) (canonical_unpack _)
  quantity_div _ _ h := packedQuantity_div h
  le_eq a b := (le_unpack a b).trans (Number.le_eq (canonical_unpack _) (canonical_unpack _))
  lt_eq a b := (lt_unpack a b).trans (Number.lt_eq (canonical_unpack _) (canonical_unpack _))
  finite_eq a := isFinite_eq_isNumber a.toModel.unpack

/-- The rate of a double. -/
def Rate.ofDouble (x : Number.Double) (hfinite : x.finite = true) (hpositive : x.positive = true) : Rate Float where
  perSecond := x.toFloat
  isFinite := (Number.Double.finite_toFloat x).trans hfinite
  isPositive := (Number.Double.lt_toFloat x).trans hpositive

end TelemetryGateway.Admission
