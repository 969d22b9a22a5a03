import Mathlib
import TelemetryGateway.Proofs.Number.Unpacked

/-!
# Operations on floats

The sum, the difference, the product and the quotient of two floats are the exact ones, rounded to the nearest double,
and floats are in the order of what they stand for.

## Main statements

- `quantityOf_add`, `quantityOf_sub`, `quantityOf_mul`, `quantityOf_div`: the operations
- `le_eq`, `lt_eq`: the order
-/

namespace TelemetryGateway.Number

open Float.Model (UnpackedFloat totalExponent)
open Float.Model.UnpackedFloat
open Double (format)

/-! ## Signs -/

@[simp] theorem negative_neg (s : Sign) : negative (-s) = !negative s := by cases s <;> rfl

@[simp] theorem negative_mul (s t : Sign) : negative (s * t) = (negative s != negative t) := by
  cases s <;> cases t <;> rfl

@[simp] theorem negative_div (s t : Sign) : negative (s / t) = (negative s != negative t) := by
  cases s <;> cases t <;> rfl

theorem signed_neg (s : Sign) (q : ℚ) : signed (-s) q = -signed s q := by
  cases s with
  | negative => exact (neg_neg q).symm
  | positive => rfl

theorem signed_mul (s t : Sign) (p q : ℚ) : signed (s * t) (p * q) = signed s p * signed t q := by
  cases s with
  | negative =>
    cases t with
    | negative => exact (neg_mul_neg p q).symm
    | positive => exact (neg_mul p q).symm
  | positive =>
    cases t with
    | negative => exact (mul_neg p q).symm
    | positive => rfl

theorem signed_div (s t : Sign) (p q : ℚ) : signed (s / t) (p / q) = signed s p / signed t q := by
  cases s with
  | negative =>
    cases t with
    | negative => exact (neg_div_neg_eq p q).symm
    | positive => exact (neg_div q p).symm
  | positive =>
    cases t with
    | negative => exact (div_neg p).symm
    | positive => rfl

theorem apply_cast (s : Sign) (n : ℤ) : ((s.apply n : ℤ) : ℚ) = signed s n := by
  cases s <;> simp [Sign.apply, signed]

/-! ## Rounding in both directions -/

/-- A smaller exponent puts zeros behind the mantissa. -/
theorem decreaseExponent_eq (m : Nat) {e t : ℤ} (h : t ≤ e) :
    (decreaseExponent m e t).2 = t ∧ ((decreaseExponent m e t).1 : ℚ) * 2 ^ t = m * 2 ^ e := by
  obtain ⟨k, hk⟩ := Int.eq_ofNat_of_zero_le (sub_nonneg.2 h)
  have he : e = k + t := by omega
  simp only [decreaseExponent, hk, Int.toNat_natCast]
  refine ⟨by omega, ?_⟩
  rw [Nat.shiftLeft_eq, he, power_add, zpow_natCast]
  push_cast
  ring

theorem decreaseExponent_of_le (m : Nat) {e t : ℤ} (h : e ≤ t) : decreaseExponent m e t = (m, e) := by
  have hshift : (e - t).toNat = 0 := by omega
  simp [decreaseExponent, hshift]

/-- A mantissa and an exponent that is not too great go to the nearest double. -/
theorem packedQuantity_exact (s : Sign) {m : Nat} {e : ℤ} (hm : 0 < m) (he : e ≤ scaleOf (m * 2 ^ e)) :
    packedQuantity (roundWithAccuracy format s m e .exact) = Rounding.double.round (signed s (m * 2 ^ e)) := by
  apply packedQuantity_round s (mul_pos (Nat.cast_pos.2 hm) (power_pos e)) _ he
  rw [mul_div_cancel_right₀ _ (power_pos e).ne']
  exact .exact m

/-- With an exponent that may be too great, zeros are put behind the mantissa first. -/
theorem packedQuantity_roundBoth (s : Sign) {m : Nat} (hm : 0 < m) (e : ℤ) :
    packedQuantity (UnpackedFloat.round format s m e) = Rounding.double.round (signed s (m * 2 ^ e)) := by
  have hpos : (0 : ℚ) < m * 2 ^ e := mul_pos (Nat.cast_pos.2 hm) (power_pos e)
  have hhigh : (m : ℚ) * 2 ^ e < (m + 1) * 2 ^ e := by linarith [power_pos e]
  have htarget : format.targetExponent (totalExponent m e) = scaleOf (m * 2 ^ e) :=
    targetExponent_of_pos hm le_rfl hhigh
  simp only [UnpackedFloat.round, htarget]
  obtain hle | hge := le_total e (scaleOf (m * 2 ^ e))
  · rw [decreaseExponent_of_le m hle]
    exact packedQuantity_exact s hm hle
  · obtain ⟨hexponent, hvalue⟩ := decreaseExponent_eq m hge
    have hmore : (0 : ℚ) < (decreaseExponent m e (scaleOf (m * 2 ^ e))).1 := by
      apply pos_of_mul_pos_left _ (power_pos (scaleOf (m * 2 ^ e))).le
      rw [hvalue]
      exact hpos
    have hround := packedQuantity_exact s (Nat.cast_pos.1 hmore) (e := scaleOf (m * 2 ^ e)) (by rw [hvalue])
    rw [hvalue] at hround
    rw [hexponent]
    exact hround

/-- So does an integer with an exponent. -/
theorem packedQuantity_normalize (n : ℤ) (e : ℤ) (z : Sign) :
    packedQuantity (UnpackedFloat.normalize format n e z) = Rounding.double.round (n * 2 ^ e) := by
  unfold UnpackedFloat.normalize
  cases hsign : compare n 0 with
  | lt =>
    rw [Int.compare_eq_lt] at hsign
    have hnat : ((-n).toNat : ℤ) = -n := Int.toNat_of_nonneg (by omega)
    have hvalue : signed .negative ((-n).toNat * 2 ^ e) = n * 2 ^ e := by
      rw [signed, ← Int.cast_natCast, hnat]
      push_cast
      ring
    rw [← hvalue]
    exact packedQuantity_roundBoth .negative (by omega) e
  | eq =>
    rw [Int.compare_eq_eq] at hsign
    rw [hsign, Int.cast_zero, zero_mul, Rounding.round_zero]
    exact packedQuantity_zero z
  | gt =>
    rw [Int.compare_eq_gt] at hsign
    have hnat : (n.toNat : ℤ) = n := Int.toNat_of_nonneg (by omega)
    have hvalue : signed .positive (n.toNat * 2 ^ e) = n * 2 ^ e := by
      rw [signed, ← Int.cast_natCast, hnat]
    rw [← hvalue]
    exact packedQuantity_roundBoth .positive (by omega) e

/-! ## The four operations -/

/-- Both mantissas are brought to one exponent. -/
theorem aligned_cast (s : Sign) (m : Nat) {e t : ℤ} (h : t ≤ e) :
    ((s.apply (decreaseExponent m e t).1 : ℤ) : ℚ) * 2 ^ t = signed s (m * 2 ^ e) := by
  rw [apply_cast, Int.cast_natCast, ← (decreaseExponent_eq m h).2]
  cases s with
  | negative => exact neg_mul ..
  | positive => rfl

theorem packedQuantity_add {a b : UnpackedFloat} (ha : Canonical a) (hb : Canonical b) :
    packedQuantity (UnpackedFloat.add format a b) = (quantityOf a).sum .double (quantityOf b) := by
  cases a with
  | notANumber => cases b <;> exact packedQuantity_notANumber
  | infinity s =>
    cases b with
    | infinity t => cases s <;> cases t <;> simp [UnpackedFloat.add, quantityOf, Quantity.sum, negative]
    | notANumber => exact packedQuantity_notANumber
    | zero t => exact packedQuantity_infinity s
    | finite t n f hn => exact packedQuantity_infinity s
  | zero s =>
    cases b with
    | infinity t => exact packedQuantity_infinity t
    | notANumber => exact packedQuantity_notANumber
    | zero t =>
      rw [quantityOf, quantityOf, Quantity.sum, add_zero, Rounding.round_zero, UnpackedFloat.add]
      split <;> exact packedQuantity_zero _
    | finite t n f hn =>
      rw [quantityOf, quantityOf, Quantity.sum, zero_add]
      exact packedQuantity_of_fits t hn hb
  | finite s m e hm =>
    cases b with
    | infinity t => exact packedQuantity_infinity t
    | notANumber => exact packedQuantity_notANumber
    | zero t =>
      rw [quantityOf, quantityOf, Quantity.sum, add_zero]
      exact packedQuantity_of_fits s hm ha
    | finite t n f hn =>
      simp only [UnpackedFloat.add, packedQuantity_normalize, quantityOf, Quantity.sum]
      push_cast
      rw [add_mul, aligned_cast s m (min_le_left e f), aligned_cast t n (min_le_right e f)]

theorem canonical_neg {a : UnpackedFloat} (h : Canonical a) : Canonical a.neg := by
  cases a <;> exact h

theorem quantityOf_neg (a : UnpackedFloat) : quantityOf a.neg = (quantityOf a).neg := by
  cases a with
  | notANumber => rfl
  | infinity s => simp [UnpackedFloat.neg, quantityOf, Quantity.neg]
  | zero s => simp [UnpackedFloat.neg, quantityOf, Quantity.neg]
  | finite s m e hm => simp [UnpackedFloat.neg, quantityOf, Quantity.neg, signed_neg]

/-- A difference is the sum with the sign turned. -/
theorem sub_eq_add_neg (a b : UnpackedFloat) : UnpackedFloat.sub format a b = UnpackedFloat.add format a b.neg := by
  cases a with
  | finite s m e hm =>
    cases b with
    | finite t n f hn =>
      have happly (k : ℤ) : (-t).apply k = -t.apply k := by
        cases t with
        | negative => exact (neg_neg k).symm
        | positive => rfl
      simp only [UnpackedFloat.sub, UnpackedFloat.add, UnpackedFloat.neg, happly]
      rfl
    | _ => rfl
  | _ => cases b <;> rfl

theorem packedQuantity_sub {a b : UnpackedFloat} (ha : Canonical a) (hb : Canonical b) :
    packedQuantity (UnpackedFloat.sub format a b) = (quantityOf a).sum .double (quantityOf b).neg := by
  rw [sub_eq_add_neg, packedQuantity_add ha (canonical_neg hb), quantityOf_neg]

theorem infinity_signed (s t : Sign) {v : ℚ} (hpos : 0 < v) :
    Quantity.infinity (signed t v) (negative s) = .infinite (negative s != negative t) := by
  rw [Quantity.infinity, if_neg (signed_ne_zero t hpos), decide_signed_neg t hpos]

/-- Two mantissas make one that is long enough, as one of them is full or both exponents are the least. -/
theorem mul_le_scaleOf {m n : Nat} {e f : ℤ} (hm : 0 < m) (hn : 0 < n) (ha : Fits m e) (hb : Fits n f) :
    e + f ≤ scaleOf ((m * n : Nat) * 2 ^ (e + f)) := by
  have hpos : 0 < m * n := Nat.mul_pos hm hn
  have hnext : ((m * n : Nat) : ℚ) * 2 ^ (e + f) < ((m * n : Nat) + 1) * 2 ^ (e + f) := by
    linarith [power_pos (e + f)]
  rw [← targetExponent_of_pos hpos le_rfl hnext, targetExponent_eq, totalExponent]
  by_cases hfull : 2 ^ 52 ≤ m * n
  · have hlog : 52 ≤ (m * n).log2 := (Nat.le_log2 hpos.ne').2 hfull
    omega
  · have he : e = -1074 := ha.full.resolve_left fun h => hfull (h.trans (Nat.le_mul_of_pos_right m hn))
    have hf : f = -1074 := hb.full.resolve_left fun h => hfull (h.trans (Nat.le_mul_of_pos_left n hm))
    omega

theorem packedQuantity_mul {a b : UnpackedFloat} (ha : Canonical a) (hb : Canonical b) :
    packedQuantity (UnpackedFloat.mul format a b) = (quantityOf a).product .double (quantityOf b) := by
  cases a with
  | notANumber => cases b <;> exact packedQuantity_notANumber
  | infinity s =>
    cases b with
    | infinity t => exact (packedQuantity_infinity _).trans (congrArg _ (negative_mul s t))
    | notANumber => exact packedQuantity_notANumber
    | zero t => exact packedQuantity_notANumber
    | finite t n f hn =>
      rw [quantityOf, quantityOf, Quantity.product, infinity_signed s t (mul_pos (Nat.cast_pos.2 hn) (power_pos f))]
      exact (packedQuantity_infinity _).trans (congrArg _ (negative_mul s t))
  | zero s =>
    cases b with
    | infinity t => exact packedQuantity_notANumber
    | notANumber => exact packedQuantity_notANumber
    | zero t =>
      rw [quantityOf, quantityOf, Quantity.product, zero_mul, Rounding.round_zero]
      exact packedQuantity_zero _
    | finite t n f hn =>
      rw [quantityOf, quantityOf, Quantity.product, zero_mul, Rounding.round_zero]
      exact packedQuantity_zero _
  | finite s m e hm =>
    cases b with
    | infinity t =>
      rw [quantityOf, quantityOf, Quantity.product, infinity_signed t s (mul_pos (Nat.cast_pos.2 hm) (power_pos e)),
        bne_comm]
      exact (packedQuantity_infinity _).trans (congrArg _ (negative_mul s t))
    | notANumber => exact packedQuantity_notANumber
    | zero t =>
      rw [quantityOf, quantityOf, Quantity.product, mul_zero, Rounding.round_zero]
      exact packedQuantity_zero _
    | finite t n f hn =>
      have hvalue : ((m * n : Nat) : ℚ) * 2 ^ (e + f) = m * 2 ^ e * (n * 2 ^ f) := by
        rw [power_add]
        push_cast
        ring
      have hround := packedQuantity_exact (s * t) (Nat.mul_pos hm hn) (mul_le_scaleOf hm hn ha hb)
      rwa [hvalue, signed_mul] at hround

/-- The quotient is aimed at with enough bits. -/
theorem div_le_scaleOf {m n : Nat} {e f : ℤ} (hm : 0 < m) (hn : 0 < n) :
    format.targetExponent (totalExponent m e - totalExponent n f) ≤ scaleOf (m * 2 ^ e / (n * 2 ^ f)) := by
  have hpos : (0 : ℚ) < m * 2 ^ e / (n * 2 ^ f) :=
    div_pos (mul_pos (Nat.cast_pos.2 hm) (power_pos e)) (mul_pos (Nat.cast_pos.2 hn) (power_pos f))
  have hlog : (m.log2 + e) - (n.log2 + 1 + f) ≤ Int.log 2 ((m : ℚ) * 2 ^ e / (n * 2 ^ f)) := by
    have hlead : (2 : ℚ) ^ (m.log2 : ℤ) ≤ m := by exact_mod_cast Nat.log2_self_le hm.ne'
    have hnext : (n : ℚ) ≤ 2 ^ (n.log2 + 1 : ℤ) := by exact_mod_cast Nat.lt_log2_self.le
    apply (Int.zpow_le_iff_le_log (b := 2) (by norm_num) hpos).1
    push_cast
    rw [zpow_sub₀ two_ne_zero, power_add, power_add (n.log2 + 1) f]
    apply div_le_div₀
    · exact mul_nonneg m.cast_nonneg (power_pos e).le
    · exact mul_le_mul_of_nonneg_right hlead (power_pos e).le
    · exact mul_pos (Nat.cast_pos.2 hn) (power_pos f)
    · exact mul_le_mul_of_nonneg_right hnext (power_pos f).le
  rw [targetExponent_eq, totalExponent, totalExponent]
  unfold scaleOf
  omega

theorem packedQuantity_div_finite (s t : Sign) {m n : Nat} {e f : ℤ} (hm : 0 < m) (hn : 0 < n) :
    packedQuantity (UnpackedFloat.div format (.finite s m e hm) (.finite t n f hn)) =
      Rounding.double.round (signed s (m * 2 ^ e) / signed t (n * 2 ^ f)) := by
  have hpos : (0 : ℚ) < m * 2 ^ e / (n * 2 ^ f) :=
    div_pos (mul_pos (Nat.cast_pos.2 hm) (power_pos e)) (mul_pos (Nat.cast_pos.2 hn) (power_pos f))
  rw [← signed_div]
  simp only [UnpackedFloat.div, divCore]
  generalize htarget : min (e - f) (format.targetExponent (totalExponent m e - totalExponent n f)) = target
  have hscale : target ≤ scaleOf (m * 2 ^ e / (n * 2 ^ f)) := by
    rw [← htarget]
    exact (min_le_right _ _).trans (div_le_scaleOf hm hn)
  obtain ⟨k, hk⟩ := Int.eq_ofNat_of_zero_le (show 0 ≤ e - f - target by omega)
  have he : e = k + (f + target) := by omega
  have hvalue : (m * 2 ^ e / (n * 2 ^ f) / 2 ^ target : ℚ) = (m <<< k : Nat) / n := by
    have hn' : (n : ℚ) ≠ 0 := Nat.cast_ne_zero.2 hn.ne'
    have hf := (power_pos f).ne'
    have ht := (power_pos target).ne'
    rw [Nat.shiftLeft_eq, he, power_add, power_add, zpow_natCast]
    push_cast
    field_simp
  rw [hk, Int.toNat_natCast]
  apply packedQuantity_round (s / t) hpos _ hscale
  rw [hvalue]
  exact describes_div _ hn

/-- A quotient, unless it is by zero. -/
theorem packedQuantity_div {a b : UnpackedFloat} (hzero : quantityOf b ≠ .number 0) :
    packedQuantity (UnpackedFloat.div format a b) = (quantityOf a).quotient .double (quantityOf b) := by
  cases b with
  | zero t => exact absurd rfl hzero
  | notANumber => cases a <;> exact packedQuantity_notANumber
  | infinity t =>
    cases a with
    | infinity s => exact packedQuantity_notANumber
    | notANumber => exact packedQuantity_notANumber
    | zero s => exact packedQuantity_zero _
    | finite s m e hm => exact packedQuantity_zero _
  | finite t n f hn =>
    have hpos : (0 : ℚ) < n * 2 ^ f := mul_pos (Nat.cast_pos.2 hn) (power_pos f)
    have hne := signed_ne_zero t hpos
    cases a with
    | infinity s =>
      rw [quantityOf, quantityOf, Quantity.quotient, decide_signed_neg t hpos]
      exact (packedQuantity_infinity _).trans (congrArg _ (negative_div s t))
    | notANumber => exact packedQuantity_notANumber
    | zero s =>
      rw [quantityOf, quantityOf, Quantity.quotient, if_neg hne, zero_div, Rounding.round_zero]
      exact packedQuantity_zero _
    | finite s m e hm =>
      rw [quantityOf, quantityOf, Quantity.quotient, if_neg hne]
      exact packedQuantity_div_finite s t hm hn

/-! ## The order -/

/-- How two quantities compare; what is no number compares with nothing. -/
def Quantity.order : Quantity → Quantity → Option Ordering
  | .number a, .number b => some (compare a b)
  | .infinite s, .infinite t => some (compare t s)
  | .infinite s, .number _ => some (if s then .lt else .gt)
  | .number _, .infinite t => some (if t then .gt else .lt)
  | _, _ => none

theorem Quantity.le_eq_order (a b : Quantity) : a.le b = (a.order b).any (·.isLE) := by
  cases a with
  | number p =>
    cases b with
    | number q =>
      have hle : p ≤ q ↔ compare p q ≠ .gt := compare_le_iff_le.symm
      simp only [le, order, hle, Option.any_some]
      cases compare p q <;> rfl
    | infinite t => cases t <;> rfl
    | invalid => rfl
  | infinite s =>
    cases b with
    | number q => cases s <;> rfl
    | infinite t => cases s <;> cases t <;> rfl
    | invalid => rfl
  | invalid => cases b <;> rfl

theorem Quantity.lt_eq_order (a b : Quantity) : a.lt b = (a.order b == some .lt) := by
  cases a with
  | number p =>
    cases b with
    | number q =>
      have hlt : p < q ↔ compare p q = .lt := compare_lt_iff_lt.symm
      simp only [lt, order, hlt]
      cases compare p q <;> rfl
    | infinite t => cases t <;> rfl
    | invalid => rfl
  | infinite s =>
    cases b with
    | number q => cases s <;> rfl
    | infinite t => cases s <;> cases t <;> rfl
    | invalid => rfl
  | invalid => cases b <;> rfl

theorem mul_lt_mul_of_fits {m n : Nat} {e f : ℤ} (ha : Fits m e) (hb : Fits n f) (h : e < f) :
    (m : ℚ) * 2 ^ e < n * 2 ^ f := by
  have hfull : 2 ^ 52 ≤ n := hb.full.resolve_right (by have := ha.least; omega)
  calc (m : ℚ) * 2 ^ e < 2 ^ (53 : ℤ) * 2 ^ e := mul_lt_mul_of_pos_right (by exact_mod_cast ha.lt) (power_pos e)
    _ = 2 ^ (53 + e) := (power_add 53 e).symm
    _ ≤ 2 ^ (52 + f) := power_mono (by omega)
    _ = 2 ^ (52 : ℤ) * 2 ^ f := power_add 52 f
    _ ≤ n * 2 ^ f := mul_le_mul_of_nonneg_right (by exact_mod_cast hfull) (power_pos f).le

theorem compare_magnitudes {m n : Nat} {e f : ℤ} (ha : Fits m e) (hb : Fits n f) :
    (compare e f).then (compare m n) = compare ((m : ℚ) * 2 ^ e) (n * 2 ^ f) := by
  obtain hlt | rfl | hgt := lt_trichotomy e f
  · rw [compare_lt_iff_lt.2 hlt, compare_lt_iff_lt.2 (mul_lt_mul_of_fits ha hb hlt)]
    rfl
  · rw [compare_eq_iff_eq.2 rfl, Ordering.eq_then]
    obtain hlt | rfl | hgt := lt_trichotomy m n
    · have hlt' : (m : ℚ) * 2 ^ e < n * 2 ^ e := mul_lt_mul_of_pos_right (Nat.cast_lt.2 hlt) (power_pos e)
      rw [compare_lt_iff_lt.2 hlt, compare_lt_iff_lt.2 hlt']
    · rw [compare_eq_iff_eq.2 rfl, compare_eq_iff_eq.2 rfl]
    · have hgt' : (n : ℚ) * 2 ^ e < m * 2 ^ e := mul_lt_mul_of_pos_right (Nat.cast_lt.2 hgt) (power_pos e)
      rw [compare_gt_iff_gt.2 hgt, compare_gt_iff_gt.2 hgt']
  · rw [compare_gt_iff_gt.2 hgt, compare_gt_iff_gt.2 (mul_lt_mul_of_fits hb ha hgt)]
    rfl

theorem compare_neg_neg (x y : ℚ) : compare (-x) (-y) = (compare x y).swap := by
  obtain hlt | rfl | hgt := lt_trichotomy x y
  · rw [compare_lt_iff_lt.2 hlt, compare_gt_iff_gt.2 (neg_lt_neg hlt)]
    rfl
  · rw [compare_eq_iff_eq.2 rfl, compare_eq_iff_eq.2 rfl]
    rfl
  · rw [compare_gt_iff_gt.2 hgt, compare_lt_iff_lt.2 (neg_lt_neg hgt)]
    rfl

theorem compare_eq_order {a b : UnpackedFloat} (ha : Canonical a) (hb : Canonical b) :
    a.compare b = (quantityOf a).order (quantityOf b) := by
  cases a with
  | notANumber => cases b <;> rfl
  | infinity s =>
    cases b with
    | infinity t => cases s <;> cases t <;> rfl
    | _ => cases s <;> rfl
  | zero s =>
    cases b with
    | infinity t => cases t <;> rfl
    | notANumber => rfl
    | zero t => exact congrArg some (compare_eq_iff_eq.2 rfl).symm
    | finite t n f hn =>
      have hn' : (0 : ℚ) < n * 2 ^ f := mul_pos (Nat.cast_pos.2 hn) (power_pos f)
      cases t with
      | negative => exact congrArg some (compare_gt_iff_gt.2 (neg_lt_zero.2 hn')).symm
      | positive => exact congrArg some (compare_lt_iff_lt.2 hn').symm
  | finite s m e hm =>
    have hm' : (0 : ℚ) < m * 2 ^ e := mul_pos (Nat.cast_pos.2 hm) (power_pos e)
    cases b with
    | infinity t => cases t <;> cases s <;> rfl
    | notANumber => cases s <;> rfl
    | zero t =>
      cases s with
      | negative => exact congrArg some (compare_lt_iff_lt.2 (neg_lt_zero.2 hm')).symm
      | positive => exact congrArg some (compare_gt_iff_gt.2 hm').symm
    | finite t n f hn =>
      have hn' : (0 : ℚ) < n * 2 ^ f := mul_pos (Nat.cast_pos.2 hn) (power_pos f)
      have hcompare := compare_magnitudes ha hb
      cases s with
      | negative =>
        cases t with
        | negative =>
          simp only [UnpackedFloat.compare, hcompare, ← compare_neg_neg]
          rfl
        | positive => exact congrArg some (compare_lt_iff_lt.2 ((neg_lt_zero.2 hm').trans hn')).symm
      | positive =>
        cases t with
        | negative => exact congrArg some (compare_gt_iff_gt.2 ((neg_lt_zero.2 hn').trans hm')).symm
        | positive =>
          simp only [UnpackedFloat.compare, hcompare]
          rfl

theorem le_eq {a b : UnpackedFloat} (ha : Canonical a) (hb : Canonical b) :
    a.le b = (quantityOf a).le (quantityOf b) := by
  rw [UnpackedFloat.le, compare_eq_order ha hb, Quantity.le_eq_order]

theorem lt_eq {a b : UnpackedFloat} (ha : Canonical a) (hb : Canonical b) :
    a.lt b = (quantityOf a).lt (quantityOf b) := by
  rw [UnpackedFloat.lt, compare_eq_order ha hb, Quantity.lt_eq_order]

end TelemetryGateway.Number
