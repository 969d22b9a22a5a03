import Mathlib
import TelemetryGateway.Number.Binary
import TelemetryGateway.Proofs.Number.Quantity

/-!
# Rounding to the nearest double

The rounding of the doubles, on rational numbers: fifty-three bits of significand from the leading bit on, or as many as
there are above `2 ^ -1074`, to the nearest, a half to the even neighbour; from `2 ^ 1024` on the result is infinite.

## Main definitions

- `nearest`: the nearest natural number
- `scaleOf`: the power of two that the last bit of the significand stands for
- `rounded`: the nearest number with such a significand, no matter how great
- `Rounding.double`: the nearest double, or infinity

## Main statements

- `rounded_mono`: the order is kept
- `rounded_eq_self`: numbers with such a significand are kept
-/

namespace TelemetryGateway.Number

/-! ## Natural numbers -/

/-- The natural number nearest to a number that is not negative; a half goes to the even neighbour. -/
def nearest (x : ℚ) : Nat :=
  if x - ⌊x⌋₊ < 1 / 2 then ⌊x⌋₊
  else if 1 / 2 < x - ⌊x⌋₊ then ⌊x⌋₊ + 1
  else ⌊x⌋₊ + ⌊x⌋₊ % 2

theorem floor_le_nearest (x : ℚ) : ⌊x⌋₊ ≤ nearest x := by
  unfold nearest
  split_ifs <;> omega

theorem nearest_le (x : ℚ) : nearest x ≤ ⌊x⌋₊ + 1 := by
  unfold nearest
  split_ifs <;> omega

theorem nearest_natCast (n : Nat) : nearest n = n := by
  simp [nearest]

theorem nearest_mono {x y : ℚ} (h : x ≤ y) : nearest x ≤ nearest y := by
  obtain hlt | heq := (Nat.floor_mono h).lt_or_eq
  -- Between the two there is a natural number
  · calc nearest x ≤ ⌊x⌋₊ + 1 := nearest_le x
      _ ≤ ⌊y⌋₊ := hlt
      _ ≤ nearest y := floor_le_nearest y
  -- Both lie between the same neighbours
  · unfold nearest
    rw [heq]
    split_ifs <;> first | omega | linarith

theorem le_nearest {n : Nat} {x : ℚ} (h : n ≤ x) : n ≤ nearest x := by
  simpa [nearest_natCast] using nearest_mono h

theorem nearest_le_of_le {n : Nat} {x : ℚ} (h : x ≤ n) : nearest x ≤ n := by
  simpa [nearest_natCast] using nearest_mono h

/-! ### Quotients -/

section Quotients

variable (num : Nat) {den : Nat} (hden : 0 < den)
include hden

/-- Behind a whole quotient stands its rest. -/
theorem div_sub_div : (num : ℚ) / den - (num / den : Nat) = (num % den : Nat) / den := by
  have hden' : (den : ℚ) ≠ 0 := Nat.cast_ne_zero.2 hden.ne'
  rw [eq_div_iff hden', sub_mul, div_mul_cancel₀ _ hden', sub_eq_iff_eq_add]
  exact_mod_cast (Nat.mod_add_div' num den).symm

theorem div_lt_half_iff : (num : ℚ) / den < 1 / 2 ↔ 2 * num < den := by
  rw [div_lt_div_iff₀ (Nat.cast_pos.2 hden) two_pos, one_mul, mul_comm]
  exact_mod_cast Iff.rfl

theorem half_lt_div_iff : 1 / 2 < (num : ℚ) / den ↔ den < 2 * num := by
  rw [div_lt_div_iff₀ two_pos (Nat.cast_pos.2 hden), one_mul, mul_comm]
  exact_mod_cast Iff.rfl

/-- A quotient of natural numbers is rounded in whole numbers. -/
theorem roundDiv_eq : roundDiv num den = nearest (num / den) := by
  have hfloor : ⌊(num : ℚ) / den⌋₊ = num / den := Nat.floor_div_eq_div num den
  simp only [roundDiv, nearest, hfloor, div_sub_div num hden, div_lt_half_iff _ hden, half_lt_div_iff _ hden]

end Quotients

/-! ## Significands -/

/-- The power of two that the last bit of the significand stands for: fifty-two below the leading bit, but no less than
that of the smallest double. -/
def scaleOf (x : ℚ) : ℤ := max (Int.log 2 x - 52) (-1074)

theorem power_pos (k : ℤ) : (0 : ℚ) < 2 ^ k := zpow_pos two_pos k

theorem power_mono {j k : ℤ} (h : j ≤ k) : (2 : ℚ) ^ j ≤ 2 ^ k := zpow_le_zpow_right₀ one_le_two h

theorem power_add (j k : ℤ) : (2 : ℚ) ^ (j + k) = 2 ^ j * 2 ^ k := zpow_add₀ two_ne_zero j k

/-- The binary logarithm of a number is where its leading bit is. -/
theorem log_eq {x : ℚ} {k : ℤ} (hlow : 2 ^ k ≤ x) (hhigh : x < 2 ^ (k + 1)) : Int.log 2 x = k := by
  have hpos : 0 < x := (power_pos k).trans_le hlow
  have hle : k ≤ Int.log 2 x := (Int.zpow_le_iff_le_log (b := 2) (by norm_num) hpos).1 (by exact_mod_cast hlow)
  have hlt : Int.log 2 x < k + 1 := (Int.lt_zpow_iff_log_lt (b := 2) (by norm_num) hpos).1 (by exact_mod_cast hhigh)
  omega

theorem power_log_le {x : ℚ} (hpos : 0 < x) : 2 ^ Int.log 2 x ≤ x := by
  exact_mod_cast Int.zpow_log_le_self (b := 2) (by norm_num) hpos

theorem lt_power_log (x : ℚ) : x < 2 ^ (Int.log 2 x + 1) := by
  exact_mod_cast Int.lt_zpow_succ_log_self (b := 2) (by norm_num) x

/-- A significand has at most fifty-three bits in front of its point. -/
theorem significand_lt (x : ℚ) : x / 2 ^ scaleOf x < 2 ^ 53 := by
  rw [div_lt_iff₀ (power_pos _)]
  calc x < 2 ^ (Int.log 2 x + 1) := lt_power_log x
    _ ≤ 2 ^ (53 + scaleOf x) := power_mono (by unfold scaleOf; omega)
    _ = 2 ^ 53 * 2 ^ scaleOf x := power_add 53 _

/-- Above the least scale it has the leading one of them. -/
theorem le_significand {x : ℚ} (hpos : 0 < x) (hscale : -1074 < scaleOf x) : 2 ^ 52 ≤ x / 2 ^ scaleOf x := by
  rw [le_div_iff₀ (power_pos _)]
  have hlog : scaleOf x = Int.log 2 x - 52 := by
    unfold scaleOf at hscale ⊢
    omega
  calc (2 : ℚ) ^ 52 * 2 ^ scaleOf x = 2 ^ (52 + scaleOf x) := (power_add 52 _).symm
    _ = 2 ^ Int.log 2 x := by rw [hlog]; ring_nf
    _ ≤ x := power_log_le hpos

theorem scaleOf_mono {x y : ℚ} (hpos : 0 < x) (h : x ≤ y) : scaleOf x ≤ scaleOf y := by
  have hlog := Int.log_mono_right (b := 2) hpos h
  unfold scaleOf
  omega

/-- The nearest number with a significand of fifty-three bits, or as many as there are above the least scale. -/
def rounded (x : ℚ) : ℚ := nearest (x / 2 ^ scaleOf x) * 2 ^ scaleOf x

theorem rounded_nonneg (x : ℚ) : 0 ≤ rounded x :=
  mul_nonneg (Nat.cast_nonneg _) (power_pos _).le

theorem nearest_significand_le (x : ℚ) : nearest (x / 2 ^ scaleOf x) ≤ 2 ^ 53 := by
  apply nearest_le_of_le
  exact_mod_cast (significand_lt x).le

theorem le_nearest_significand {x : ℚ} (hpos : 0 < x) (hscale : -1074 < scaleOf x) :
    2 ^ 52 ≤ nearest (x / 2 ^ scaleOf x) := by
  apply le_nearest
  exact_mod_cast le_significand hpos hscale

@[simp] theorem rounded_zero : rounded 0 = 0 := by
  have h := nearest_natCast 0
  simp only [Nat.cast_zero] at h
  simp [rounded, h]

theorem rounded_mono {x y : ℚ} (hx : 0 ≤ x) (h : x ≤ y) : rounded x ≤ rounded y := by
  obtain rfl | hpos := hx.eq_or_lt
  · rw [rounded_zero]
    exact rounded_nonneg y
  obtain hlt | heq := (scaleOf_mono hpos h).lt_or_eq
  -- Between the two there is a power of two, which the first does not exceed and the second does not fall below
  · have hscale : -1074 < scaleOf y := lt_of_le_of_lt (le_max_right _ _) hlt
    have hlow : (2 : ℚ) ^ 52 ≤ nearest (y / 2 ^ scaleOf y) := by
      exact_mod_cast le_nearest_significand (hpos.trans_le h) hscale
    have hhigh : (nearest (x / 2 ^ scaleOf x) : ℚ) ≤ 2 ^ 53 := by exact_mod_cast nearest_significand_le x
    calc rounded x ≤ 2 ^ 53 * 2 ^ scaleOf x := mul_le_mul_of_nonneg_right hhigh (power_pos _).le
      _ = 2 ^ (53 + scaleOf x) := (power_add 53 _).symm
      _ ≤ 2 ^ (52 + scaleOf y) := power_mono (by omega)
      _ = 2 ^ 52 * 2 ^ scaleOf y := power_add 52 _
      _ ≤ rounded y := mul_le_mul_of_nonneg_right hlow (power_pos _).le
  · unfold rounded
    rw [heq]
    have hle : x / 2 ^ scaleOf y ≤ y / 2 ^ scaleOf y := div_le_div_of_nonneg_right h (power_pos _).le
    exact mul_le_mul_of_nonneg_right (by exact_mod_cast nearest_mono hle) (power_pos _).le

/-- A number that has such a significand is kept. -/
theorem rounded_eq_self {m : Nat} {k : ℤ} (hm : m < 2 ^ 53) (hk : -1074 ≤ k) :
    rounded (m * 2 ^ k) = m * 2 ^ k := by
  obtain rfl | hpos := Nat.eq_zero_or_pos m
  · simp
  have hscale : scaleOf (m * 2 ^ k) ≤ k := by
    have hx : (0 : ℚ) < m * 2 ^ k := mul_pos (Nat.cast_pos.2 hpos) (power_pos k)
    have hlog : Int.log 2 ((m : ℚ) * 2 ^ k) < 53 + k := by
      apply (Int.lt_zpow_iff_log_lt (b := 2) (by norm_num) hx).1
      push_cast
      rw [power_add]
      apply mul_lt_mul_of_pos_right _ (power_pos k)
      exact_mod_cast hm
    unfold scaleOf
    omega
  -- At its own scale the number is a natural number
  obtain ⟨j, hj⟩ := Int.eq_ofNat_of_zero_le (sub_nonneg.2 hscale)
  have hnat : (m * 2 ^ k : ℚ) / 2 ^ scaleOf (m * 2 ^ k) = (m * 2 ^ j : Nat) := by
    have hsplit : k = j + scaleOf (m * 2 ^ k) := by omega
    rw [div_eq_iff (power_pos _).ne']
    push_cast
    rw [mul_assoc, ← zpow_natCast (2 : ℚ) j, ← power_add, ← hsplit]
  unfold rounded
  rw [hnat, nearest_natCast, ← hnat, div_mul_cancel₀ _ (power_pos _).ne']

/-! ## Signs and infinities -/

/-- The rounding does not depend on the sign. -/
def roundedSigned (x : ℚ) : ℚ := if x < 0 then -rounded (-x) else rounded x

theorem roundedSigned_of_nonneg {x : ℚ} (h : 0 ≤ x) : roundedSigned x = rounded x := if_neg h.not_gt

theorem roundedSigned_neg (x : ℚ) : roundedSigned (-x) = -roundedSigned x := by
  obtain hneg | rfl | hpos := lt_trichotomy x 0
  · rw [roundedSigned, roundedSigned, if_pos hneg, if_neg (by linarith), neg_neg]
  · simp [roundedSigned]
  · rw [roundedSigned, roundedSigned, if_pos (by linarith), if_neg hpos.not_gt, neg_neg]

theorem roundedSigned_mono {x y : ℚ} (h : x ≤ y) : roundedSigned x ≤ roundedSigned y := by
  unfold roundedSigned
  split_ifs with hx hy hy
  · exact neg_le_neg (rounded_mono (by linarith) (neg_le_neg h))
  · linarith [rounded_nonneg (-x), rounded_nonneg y]
  · linarith
  · exact rounded_mono (not_lt.1 hx) h

/-- The least number that is beyond all doubles. -/
def limit : ℚ := 2 ^ (1024 : ℤ)

/-- A number, where there are doubles as great; else an infinity. -/
def Quantity.bounded (q : ℚ) : Quantity :=
  if |q| < limit then .number q else .infinite (decide (q < 0))

@[simp] theorem Quantity.bounded_zero : bounded 0 = .number 0 := by
  have hlimit : (0 : ℚ) < limit := power_pos 1024
  rw [bounded, abs_zero, if_pos hlimit]

theorem Quantity.bounded_mono {p q : ℚ} (h : p ≤ q) : (bounded p).le (bounded q) = true := by
  unfold bounded
  split_ifs with hp hq hq
  · exact decide_eq_true h
  -- The greater one is beyond all doubles, and so it is positive
  · have hpos : ¬ q < 0 := by
      intro hneg
      rw [abs_lt] at hp
      rw [abs_of_neg hneg, not_lt] at hq
      linarith
    simp [le, hpos]
  · have hneg : p < 0 := by
      by_contra hnonneg
      rw [abs_lt] at hq
      rw [abs_of_nonneg (not_lt.1 hnonneg), not_lt] at hp
      linarith
    simp [le, hneg]
  · by_cases hneg : q < 0
    · simp [le, h.trans_lt hneg]
    · simp [le, hneg]

/-- The nearest double, or infinity. -/
def Rounding.double : Rounding where
  round x := .bounded (roundedSigned x)
  mono h := Quantity.bounded_mono (roundedSigned_mono h)
  natCast {n} hn := by
    have hkept : rounded n = n := by
      have hself := rounded_eq_self (m := n) (k := 0) (by omega) (by norm_num)
      simpa using hself
    have hsmall : |(n : ℚ)| < limit := by
      rw [abs_of_nonneg n.cast_nonneg]
      calc (n : ℚ) ≤ 2 ^ (32 : ℤ) := by exact_mod_cast hn
        _ < limit := zpow_lt_zpow_right₀ one_lt_two (by norm_num)
    rw [roundedSigned_of_nonneg n.cast_nonneg, hkept, Quantity.bounded, if_pos hsmall]

theorem Rounding.double_round (x : ℚ) : Rounding.double.round x = .bounded (roundedSigned x) := by
  simp only [double]

end TelemetryGateway.Number
