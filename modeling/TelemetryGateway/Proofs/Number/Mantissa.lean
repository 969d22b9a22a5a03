import Mathlib
import TelemetryGateway.Proofs.Number.Nearest

/-!
# Mantissas with two bits behind them

The floats move a mantissa to the right and keep two bits of what falls off: the first one, and whether any bit behind
it was set. That is enough to round to the nearest in the end, as if nothing had been lost.

## Main definitions

- `Describes`: the number that a mantissa and its two bits come from

## Main statements

- `Describes.shiftRight`: bits may fall off
- `Describes.roundedMantissa`: the mantissa is rounded to the nearest
- `roundWithAccuracy_eq`: the nearest number with fifty-three bits
-/

namespace TelemetryGateway.Number

open Float.Model (totalExponent)
open Float.Model.UnpackedFloat

/-! ## Bits that fall off -/

/-- What lies behind a mantissa, by the two bits that are kept of it. -/
def Rest : Bool → Bool → ℚ → Prop
  | false, false, f => f = 0
  | false, true, f => 0 < f ∧ f < 1 / 2
  | true, false, f => f = 1 / 2
  | true, true, f => 1 / 2 < f ∧ f < 1

theorem Rest.nonneg {r s : Bool} {f : ℚ} (h : Rest r s f) : 0 ≤ f := by
  cases r <;> cases s <;> simp only [Rest] at h <;> linarith

theorem Rest.lt_one {r s : Bool} {f : ℚ} (h : Rest r s f) : f < 1 := by
  cases r <;> cases s <;> simp only [Rest] at h <;> linarith

/-- An even mantissa gives up a bit that is not set. -/
theorem Rest.half {r s : Bool} {f : ℚ} (h : Rest r s f) : Rest false (r || s) (f / 2) := by
  cases r <;> cases s <;> simp only [Rest, Bool.or_true, Bool.or_false] at h ⊢
  · linarith
  · constructor <;> linarith
  · constructor <;> linarith
  · constructor <;> linarith

/-- An odd one gives up a bit that is set. -/
theorem Rest.half_add {r s : Bool} {f : ℚ} (h : Rest r s f) : Rest true (r || s) (f / 2 + 1 / 2) := by
  cases r <;> cases s <;> simp only [Rest, Bool.or_true, Bool.or_false] at h ⊢
  · linarith
  · constructor <;> linarith
  · constructor <;> linarith
  · constructor <;> linarith

/-- A mantissa comes from a number: they differ by what the two bits behind it say. -/
def Describes (em : ExtendedMantissa) (x : ℚ) : Prop :=
  Rest em.roundBit em.stickyBit (x - em.mantissa)

namespace Describes

variable {em : ExtendedMantissa} {x : ℚ}

theorem mantissa_ofMantissaAndAccuracy (m : Nat) (accuracy : Accuracy) :
    (ExtendedMantissa.ofMantissaAndAccuracy m accuracy).mantissa = m := by
  cases accuracy with
  | exact => rfl
  | inexact order => cases order <;> rfl

theorem exact (m : Nat) : Describes (.ofMantissaAndAccuracy m .exact) m := sub_self _

theorem le (h : Describes em x) : em.mantissa ≤ x := by
  have := h.nonneg
  linarith

theorem lt (h : Describes em x) : x < em.mantissa + 1 := by
  have := h.lt_one
  linarith

theorem floor_eq (h : Describes em x) : ⌊x⌋₊ = em.mantissa := by
  have hle := h.le
  rw [Nat.floor_eq_iff ((Nat.cast_nonneg _).trans hle)]
  exact ⟨hle, h.lt⟩

/-- The bit that falls off is the first one behind the mantissa then. -/
theorem shiftRightOne (h : Describes em x) : Describes em.shiftRightOne (x / 2) := by
  have hsplit : ((em.mantissa % 2 : Nat) : ℚ) + 2 * (em.mantissa / 2 : Nat) = em.mantissa := by
    exact_mod_cast Nat.mod_add_div em.mantissa 2
  simp only [Describes, ExtendedMantissa.shiftRightOne]
  obtain heven | hodd := Nat.mod_two_eq_zero_or_one em.mantissa
  · rw [heven, Nat.cast_zero, zero_add] at hsplit
    have hrest : x / 2 - (em.mantissa / 2 : Nat) = (x - em.mantissa) / 2 := by linarith
    rw [hrest, heven]
    exact Rest.half h
  · rw [hodd, Nat.cast_one] at hsplit
    have hrest : x / 2 - (em.mantissa / 2 : Nat) = (x - em.mantissa) / 2 + 1 / 2 := by linarith
    rw [hrest, hodd]
    exact Rest.half_add h

theorem shiftRight (h : Describes em x) (n : Nat) : Describes (em >>> n) (x / 2 ^ n) := by
  induction n with
  | zero =>
    rw [pow_zero, div_one]
    exact h
  | succ n ih =>
    rw [pow_succ, ← div_div]
    exact ih.shiftRightOne

/-- The two bits tell which neighbour is nearer. -/
theorem roundedMantissa (h : Describes em x) : em.roundedMantissa = nearest x := by
  have hfloor := h.floor_eq
  obtain ⟨m, r, s⟩ := em
  simp only [Describes] at h
  unfold nearest
  rw [hfloor]
  cases r <;> cases s <;> simp only [Rest] at h
  · rw [if_pos (by linarith)]
    rfl
  · rw [if_pos h.2]
    rfl
  · rw [if_neg (by linarith), if_neg (by linarith)]
    rfl
  · rw [if_neg (by linarith), if_pos h.1]
    rfl

end Describes

/-- A division with rest says how accurate its quotient is. -/
theorem describes_div (num : Nat) {den : Nat} (hden : 0 < den) :
    Describes (.ofMantissaAndAccuracy (num / den) (accuracyOfFraction (num % den) den)) (num / den) := by
  have hlow := div_lt_half_iff (num % den) hden
  have hhigh := half_lt_div_iff (num % den) hden
  have hone : ((num % den : Nat) : ℚ) / den < 1 := by
    rw [div_lt_one (Nat.cast_pos.2 hden)]
    exact_mod_cast Nat.mod_lt num hden
  unfold accuracyOfFraction
  split
  · next hnone =>
    show (num : ℚ) / den - (num / den : Nat) = 0
    rw [div_sub_div num hden, hnone, Nat.cast_zero, zero_div]
  · next hsome =>
    have hpos : (0 : ℚ) < (num % den : Nat) / den := by
      apply div_pos _ (Nat.cast_pos.2 hden)
      exact_mod_cast Nat.pos_of_ne_zero hsome
    cases hcompare : compare (2 * (num % den)) den with
    | lt =>
      rw [Nat.compare_eq_lt] at hcompare
      show 0 < (num : ℚ) / den - (num / den : Nat) ∧ (num : ℚ) / den - (num / den : Nat) < 1 / 2
      rw [div_sub_div num hden]
      exact ⟨hpos, hlow.2 hcompare⟩
    | eq =>
      rw [Nat.compare_eq_eq] at hcompare
      show (num : ℚ) / den - (num / den : Nat) = 1 / 2
      rw [div_sub_div num hden]
      apply le_antisymm
      · exact not_lt.1 (mt hhigh.1 hcompare.not_gt)
      · exact not_lt.1 (mt hlow.1 hcompare.not_lt)
    | gt =>
      rw [Nat.compare_eq_gt] at hcompare
      show 1 / 2 < (num : ℚ) / den - (num / den : Nat) ∧ (num : ℚ) / den - (num / den : Nat) < 1
      rw [div_sub_div num hden]
      exact ⟨hhigh.2 hcompare, hone⟩

/-! ## Fifty-three bits -/

theorem targetExponent_eq (t : ℤ) : Float.Model.Format.binary64.targetExponent t = max (t - 53) (-1074) := by
  simp [Float.Model.Format.targetExponent, Float.Model.Format.mantissaBits, Float.Model.Format.minExponent]

theorem log_eq_log2 {m : Nat} {e : ℤ} {x : ℚ} (hm : 0 < m) (hlow : m * 2 ^ e ≤ x) (hhigh : x < (m + 1) * 2 ^ e) :
    Int.log 2 x = m.log2 + e := by
  have hlead : (2 : ℚ) ^ (m.log2 : ℤ) ≤ m := by exact_mod_cast Nat.log2_self_le hm.ne'
  have hnext : (m : ℚ) + 1 ≤ 2 ^ (m.log2 + 1 : ℤ) := by exact_mod_cast Nat.lt_log2_self
  apply log_eq
  · rw [power_add]
    exact (mul_le_mul_of_nonneg_right hlead (power_pos e).le).trans hlow
  · rw [add_right_comm, power_add]
    exact hhigh.trans_le (mul_le_mul_of_nonneg_right hnext (power_pos e).le)

/-- The exponent that is aimed at is the scale of the number that the mantissa comes from. -/
theorem targetExponent_of_pos {m : Nat} {e : ℤ} {x : ℚ} (hm : 0 < m) (hlow : m * 2 ^ e ≤ x)
    (hhigh : x < (m + 1) * 2 ^ e) : Float.Model.Format.binary64.targetExponent (totalExponent m e) = scaleOf x := by
  have hlog := log_eq_log2 hm hlow hhigh
  rw [targetExponent_eq, totalExponent]
  unfold scaleOf
  omega

/-- It is so too where all bits have fallen off: they stood for less than the smallest double. -/
theorem targetExponent_zero {e : ℤ} {x : ℚ} (hpos : 0 < x) (hhigh : x < 2 ^ e) (he : e ≤ scaleOf x) :
    Float.Model.Format.binary64.targetExponent (totalExponent 0 e) = scaleOf x := by
  have hlog : Int.log 2 x < e := by
    apply (Int.lt_zpow_iff_log_lt (b := 2) (by norm_num) hpos).1
    exact_mod_cast hhigh
  have hzero : Nat.log2 0 = 0 := by decide
  rw [targetExponent_eq, totalExponent, hzero]
  unfold scaleOf at he ⊢
  omega

/-- The float of a rounded mantissa: one of fifty-four bits gives up the last one, which is not set. -/
def settle (s : Sign) (n : Nat) (k : ℤ) : Float.Model.UnpackedFloat :=
  if h : n = 0 then .zero s
  else if n < 2 ^ 53 then .finite s n k (Nat.pos_of_ne_zero h)
  else .finite s (2 ^ 52) (k + 1) (by norm_num)

/-- A mantissa that has room stays where it is. -/
theorem shift_of_lt {n : Nat} {k : ℤ} (hn : n < 2 ^ 53) (hk : -1074 ≤ k) :
    shiftToTargetExponent .binary64 n k .exact = (⟨n, false, false⟩, k) := by
  have hlog : n.log2 < 53 := by
    obtain rfl | hpos := Nat.eq_zero_or_pos n
    · decide
    · exact (Nat.log2_lt hpos.ne').2 hn
  have hshift : (Float.Model.Format.binary64.targetExponent (totalExponent n k) - k).toNat = 0 := by
    rw [targetExponent_eq, totalExponent]
    omega
  simp only [shiftToTargetExponent, shiftToExponent, hshift]
  simp [HShiftRight.hShiftRight, Nat.repeat, ExtendedMantissa.ofMantissaAndAccuracy]

theorem shift_full {k : ℤ} (hk : -1074 ≤ k) :
    shiftToTargetExponent .binary64 (2 ^ 53) k .exact = (⟨2 ^ 52, false, false⟩, k + 1) := by
  have hshift : (Float.Model.Format.binary64.targetExponent (totalExponent (2 ^ 53) k) - k).toNat = 1 := by
    rw [targetExponent_eq, totalExponent, Nat.log2_two_pow]
    omega
  simp only [shiftToTargetExponent, shiftToExponent, hshift]
  rfl

/-- The second shift makes room for a carry. -/
theorem settle_eq (s : Sign) {n : Nat} {k : ℤ} (hn : n ≤ 2 ^ 53) (hk : -1074 ≤ k) :
    (match shiftToTargetExponent .binary64 n k .exact with
      | (em, e) => if h : em.mantissa = 0 then .zero s else .finite s em.mantissa e (Nat.pos_of_ne_zero h)) =
      settle s n k := by
  obtain hlt | rfl := hn.lt_or_eq
  · rw [shift_of_lt hlt hk]
    simp only [settle, if_pos hlt]
  · rw [shift_full hk]
    rfl

/-- **Rounding.** A mantissa, an exponent and the accuracy of the two go to the nearest number with fifty-three bits. -/
theorem roundWithAccuracy_eq {m : Nat} {e : ℤ} {accuracy : Accuracy} {x : ℚ} (s : Sign) (hpos : 0 < x)
    (h : Describes (.ofMantissaAndAccuracy m accuracy) (x / 2 ^ e)) (he : e ≤ scaleOf x) :
    roundWithAccuracy .binary64 s m e accuracy = settle s (nearest (x / 2 ^ scaleOf x)) (scaleOf x) := by
  have hleast : -1074 ≤ scaleOf x := le_max_right _ _
  have hlow := h.le
  have hhigh := h.lt
  rw [Describes.mantissa_ofMantissaAndAccuracy, le_div_iff₀ (power_pos e)] at hlow
  rw [Describes.mantissa_ofMantissaAndAccuracy, div_lt_iff₀ (power_pos e)] at hhigh
  have htarget : Float.Model.Format.binary64.targetExponent (totalExponent m e) = scaleOf x := by
    obtain rfl | hm := Nat.eq_zero_or_pos m
    · exact targetExponent_zero hpos (by simpa using hhigh) he
    · exact targetExponent_of_pos hm hlow hhigh
  -- The first shift goes down to the scale, and what it leaves is rounded to the nearest
  obtain ⟨shift, hshift⟩ := Int.eq_ofNat_of_zero_le (sub_nonneg.2 he)
  have hscale : scaleOf x = e + shift := by omega
  have hdescribes := h.shiftRight shift
  rw [div_div, ← zpow_natCast (2 : ℚ) shift, ← power_add, ← hscale] at hdescribes
  have hfirst : shiftToTargetExponent .binary64 m e accuracy =
      (ExtendedMantissa.ofMantissaAndAccuracy m accuracy >>> shift, scaleOf x) := by
    simp only [shiftToTargetExponent, htarget, shiftToExponent, hshift]
    rw [hscale]
    rfl
  have hrounded := hdescribes.roundedMantissa
  rw [roundWithAccuracy, hfirst, ← hrounded]
  apply settle_eq s _ hleast
  rw [hrounded]
  exact nearest_significand_le x

end TelemetryGateway.Number
