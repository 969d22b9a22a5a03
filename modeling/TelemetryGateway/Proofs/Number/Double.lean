import Mathlib
import TelemetryGateway.Admission.Arithmetic

/-!
# Doubles as patterns, as floats and as numbers

A double is a pattern of bits: a sign, an exponent and a fraction. A float that is made from a pattern is what the
pattern says, and gives the pattern back unless it is no number. A finite double stands for a rational number, and what
is asked of its pattern is asked of that number.

## Main definitions

- `Double.value?`: the number that a double stands for, if it is finite

## Main statements

- `Double.pack_unpack`: a pattern is kept, unless it is no number
- `Double.finite_toFloat`, `Double.lt_toFloat`, `Double.toBits_toFloat`: a double and its float
- `Double.positive_finite_iff`, `Double.ceilUpTo_eq`: a double and its number
-/

namespace TelemetryGateway.Number

namespace Double

open Float.Model (UnpackedFloat)
open Float.Model.UnpackedFloat
open TelemetryGateway.Admission (Arithmetic)

/-- The format of doubles. -/
abbrev format : Float.Model.Format := .binary64

/-! ## Patterns -/

section Patterns

variable (b : BitVec 64)

def signOf : Sign := .ofBitVec (@unpackSign format b)

def exponentOf : BitVec 11 := @unpackExponent format b

def fractionOf : BitVec 52 := @unpackMantissa format b

theorem toNat_fractionOf : (fractionOf b).toNat = b.toNat % 2 ^ 52 := by
  simp [fractionOf, unpackMantissa]

theorem toNat_exponentOf : (exponentOf b).toNat = b.toNat / 2 ^ 52 % 2 ^ 11 := by
  simp [exponentOf, unpackExponent, Nat.shiftRight_eq_div_pow]

theorem toNat_signOf : (signOf b).toBitVec.toNat = b.toNat / 2 ^ 63 := by
  have hback : ∀ s : BitVec 1, (Sign.ofBitVec s).toBitVec = s := by decide
  have h := b.isLt
  simp [signOf, hback, unpackSign, Nat.shiftRight_eq_div_pow]
  omega

theorem toNat_packComponents (s : Sign) (e : BitVec 11) (m : BitVec 52) :
    (packComponents format s e m).toNat = (s.toBitVec.toNat * 2 ^ 11 + e.toNat) * 2 ^ 52 + m.toNat := by
  show ((s.toBitVec ++ e : BitVec 12) ++ m).toNat = _
  rw [BitVec.toNat_append, BitVec.toNat_append, ← Nat.shiftLeft_add_eq_or_of_lt e.isLt,
    ← Nat.shiftLeft_add_eq_or_of_lt m.isLt, Nat.shiftLeft_eq, Nat.shiftLeft_eq]

/-- A pattern is its parts put together. -/
theorem packComponents_parts : packComponents format (signOf b) (exponentOf b) (fractionOf b) = b := by
  apply BitVec.eq_of_toNat_eq
  have h := b.isLt
  rw [toNat_packComponents, toNat_signOf, toNat_exponentOf, toNat_fractionOf]
  omega

theorem toNat_significand (m : BitVec 52) : (1#1 ++ m).toNat = 2 ^ 52 + m.toNat := by
  rw [BitVec.toNat_append, ← Nat.shiftLeft_add_eq_or_of_lt m.isLt, Nat.shiftLeft_eq]
  rfl

/-- A subnormal number goes back to its pattern. -/
theorem pack_subnormal (s : Sign) {m : BitVec 52} (hpos : 0 < m.toNat) :
    UnpackedFloat.pack format (.finite s m.toNat (-1074) hpos) = packComponents format s 0 m := by
  -- The leading bit is not there
  have hlog : ¬ m.toNat.log2 + 1 = format.mantissaBits := by
    have hlt : m.toNat.log2 < 52 := (Nat.log2_lt hpos.ne').2 m.isLt
    show ¬ m.toNat.log2 + 1 = 53
    omega
  have hbias : ¬ 2 ^ format.exponentBits ≤
      ((-1074 : ℤ) + format.exponentBias + format.mantissaBitsWithoutImplicit).toNat + 1 := by
    decide
  simp only [UnpackedFloat.pack, if_neg hbias, if_neg hlog, BitVec.ofNat_toNat, BitVec.setWidth_eq]
  rfl

/-- A normal number goes back to its pattern. -/
theorem pack_normal (s : Sign) {e : BitVec 11} (m : BitVec 52) (hinf : e.toNat < 2047) (hpos : 0 < (1#1 ++ m).toNat) :
    UnpackedFloat.pack format (.finite s (1#1 ++ m).toNat (e.toNat - 1075 : ℤ) hpos) = packComponents format s e m := by
  have hm := m.isLt
  -- The leading bit is there, so the significand is not moved
  have hlog : (1#1 ++ m).toNat.log2 = 52 := by
    rw [toNat_significand, Nat.log2_eq_iff (by omega)]
    omega
  have hfull : (1#1 ++ m).toNat.log2 + 1 = format.mantissaBits := by
    rw [hlog]
    rfl
  have hbias : ((e.toNat : ℤ) - 1075 + format.exponentBias + format.mantissaBitsWithoutImplicit).toNat = e.toNat := by
    show ((e.toNat : ℤ) - 1075 + (1023 : ℕ) + (52 : ℕ)).toNat = e.toNat
    omega
  have hfraction : BitVec.ofNat 52 (1#1 ++ m).toNat = m := by
    apply BitVec.eq_of_toNat_eq
    rw [toNat_significand, BitVec.toNat_ofNat]
    omega
  have hsmall : ¬ 2 ^ format.exponentBits ≤ e.toNat + 1 := by
    show ¬ 2 ^ 11 ≤ e.toNat + 1
    omega
  simp only [UnpackedFloat.pack, hbias, if_neg hsmall, if_pos hfull, hfraction, BitVec.ofNat_toNat, BitVec.setWidth_eq]

variable {b}

/-- A pattern is kept, unless it is no number. -/
theorem pack_unpack (h : UnpackedFloat.unpack format b ≠ .notANumber) :
    UnpackedFloat.pack format (UnpackedFloat.unpack format b) = b := by
  have hsign : Sign.ofBitVec (@unpackSign format b) = signOf b := rfl
  have hexponent : @unpackExponent format b = exponentOf b := rfl
  have hfraction : @unpackMantissa format b = fractionOf b := rfl
  conv_rhs => rw [← packComponents_parts b]
  simp only [UnpackedFloat.unpack, hsign, hexponent, hfraction] at h ⊢
  split_ifs at h ⊢ with hfull hblank hnone hblank
  · rw [hfull, hblank]
    rfl
  · exact absurd rfl h
  · rw [hnone, hblank]
    rfl
  · rw [hnone]
    exact pack_subnormal _ _
  · refine pack_normal _ _ ?_ _
    have hne : (exponentOf b).toNat ≠ 2047 := fun heq => hfull (BitVec.eq_of_toNat_eq heq)
    have hlt := (exponentOf b).isLt
    omega

end Patterns

theorem signOf_eq (bits : UInt64) :
    signOf bits.toBitVec = if Real.negative bits then .negative else .positive := by
  have hsign := toNat_signOf bits.toBitVec
  have hnegative : Real.negative bits = true ↔ 2 ^ 63 ≤ bits.toBitVec.toNat := by
    simp only [Real.negative, decide_eq_true_eq, UInt64.le_iff_toNat_le]
    rfl
  cases h : signOf bits.toBitVec with
  | negative =>
    rw [h] at hsign
    have hone : Sign.negative.toBitVec.toNat = 1 := rfl
    rw [if_pos (hnegative.2 (by omega))]
  | positive =>
    rw [h] at hsign
    have hzero : Sign.positive.toBitVec.toNat = 0 := rfl
    rw [if_neg (mt hnegative.1 (by omega))]

/-- What a pattern says, by its sign and its magnitude. -/
theorem unpack_cases (bits : UInt64) :
    match UnpackedFloat.unpack format bits.toBitVec with
    | .notANumber => binary64.infinity < Real.magnitude bits
    | .infinity s => Real.magnitude bits = binary64.infinity ∧ s = signOf bits.toBitVec
    | .zero _ => Real.magnitude bits = 0
    | .finite s _ _ _ =>
      0 < Real.magnitude bits ∧ Real.magnitude bits < binary64.infinity ∧ s = signOf bits.toBitVec := by
  have hinfinity : binary64.infinity = 2047 * 2 ^ 52 := rfl
  -- A magnitude is an exponent with a fraction behind it
  have hmagnitude : Real.magnitude bits =
      (exponentOf bits.toBitVec).toNat * 2 ^ 52 + (fractionOf bits.toBitVec).toNat := by
    rw [toNat_exponentOf, toNat_fractionOf]
    show bits.toNat % 2 ^ 63 = bits.toNat / 2 ^ 52 % 2 ^ 11 * 2 ^ 52 + bits.toNat % 2 ^ 52
    omega
  have he := (exponentOf bits.toBitVec).isLt
  have hm := (fractionOf bits.toBitVec).isLt
  have hfull : exponentOf bits.toBitVec = -1#11 ↔ (exponentOf bits.toBitVec).toNat = 2047 := BitVec.toNat_inj.symm
  have hnone : exponentOf bits.toBitVec = 0#11 ↔ (exponentOf bits.toBitVec).toNat = 0 := BitVec.toNat_inj.symm
  have hblank : fractionOf bits.toBitVec = 0#52 ↔ (fractionOf bits.toBitVec).toNat = 0 := BitVec.toNat_inj.symm
  have hexponent : @unpackExponent format bits.toBitVec = exponentOf bits.toBitVec := rfl
  have hfraction : @unpackMantissa format bits.toBitVec = fractionOf bits.toBitVec := rfl
  rw [hmagnitude, hinfinity]
  simp only [UnpackedFloat.unpack, hexponent, hfraction]
  split_ifs with hfull' hblank' hnone' hblank'
  · have he' := hfull.1 hfull'
    have hm' := hblank.1 hblank'
    exact ⟨by omega, rfl⟩
  · have he' := hfull.1 hfull'
    have hm' := mt hblank.2 hblank'
    show 2047 * 2 ^ 52 < (exponentOf bits.toBitVec).toNat * 2 ^ 52 + (fractionOf bits.toBitVec).toNat
    omega
  · have he' := hnone.1 hnone'
    have hm' := hblank.1 hblank'
    show (exponentOf bits.toBitVec).toNat * 2 ^ 52 + (fractionOf bits.toBitVec).toNat = 0
    omega
  · have he' := hnone.1 hnone'
    have hm' := mt hblank.2 hblank'
    exact ⟨by omega, by omega, rfl⟩
  · have he' := mt hfull.2 hfull'
    have he'' := mt hnone.2 hnone'
    exact ⟨by omega, by omega, rfl⟩

/-! ## Floats -/

/-- A float that is made from a pattern is what the pattern says. -/
theorem unpack_ofBits (bits : UInt64) :
    (Float.ofBits bits).toModel.unpack = UnpackedFloat.unpack format bits.toBitVec := by
  -- The pattern is packed once more before it is read
  show UnpackedFloat.unpack format (UnpackedFloat.pack format (UnpackedFloat.unpack format bits.toBitVec)) = _
  by_cases h : UnpackedFloat.unpack format bits.toBitVec = .notANumber
  · rw [h]
    rfl
  · rw [pack_unpack h]

theorem finite_toFloat (x : Double) : x.toFloat.isFinite = x.finite := by
  have hcases := unpack_cases x.bits
  have hpos : 0 < binary64.infinity := by decide
  show (Float.ofBits x.bits).toModel.unpack.isFinite = decide (Real.magnitude x.bits < binary64.infinity)
  rw [unpack_ofBits]
  cases hunpack : UnpackedFloat.unpack format x.bits.toBitVec with
  | notANumber =>
    rw [hunpack] at hcases
    rw [decide_eq_false hcases.not_gt]
    rfl
  | infinity s =>
    rw [hunpack] at hcases
    rw [decide_eq_false hcases.1.not_lt]
    rfl
  | zero s =>
    rw [hunpack] at hcases
    rw [decide_eq_true (hcases.trans_lt hpos)]
    rfl
  | finite s m e hm =>
    rw [hunpack] at hcases
    rw [decide_eq_true hcases.2.1]
    rfl

theorem lt_toFloat (x : Double) : Arithmetic.lt (Arithmetic.ofNat 0 : Float) x.toFloat = x.positive := by
  have hzero : (Arithmetic.ofNat 0 : Float).toModel.unpack = .zero .positive := rfl
  have hlt : Arithmetic.lt (Arithmetic.ofNat 0 : Float) x.toFloat =
      (Arithmetic.ofNat 0 : Float).toModel.unpack.lt x.toFloat.toModel.unpack := by
    show decide (decide (_ = true) = true) = _
    rw [Bool.decide_eq_true, Bool.decide_eq_true]
    rfl
  have hcases := unpack_cases x.bits
  rw [hlt, hzero, toFloat, unpack_ofBits]
  cases hunpack : UnpackedFloat.unpack format x.bits.toBitVec with
  | notANumber =>
    rw [hunpack] at hcases
    simp only [positive, decide_eq_false (Nat.not_le.2 hcases), Bool.and_false]
    rfl
  | infinity s =>
    rw [hunpack] at hcases
    obtain ⟨hmagnitude, rfl⟩ := hcases
    simp only [positive, hmagnitude, signOf_eq]
    cases Real.negative x.bits <;> rfl
  | zero s =>
    rw [hunpack] at hcases
    have hmagnitude : Real.magnitude x.bits = 0 := hcases
    simp only [positive, hmagnitude, Nat.lt_irrefl, decide_false, Bool.and_false, Bool.false_and]
    rfl
  | finite s m e hm =>
    rw [hunpack] at hcases
    obtain ⟨hpos, hfinite, rfl⟩ := hcases
    simp only [positive, decide_eq_true hpos, decide_eq_true hfinite.le, signOf_eq]
    cases Real.negative x.bits <;> rfl

/-- A finite float gives its pattern back. -/
theorem toBits_toFloat {x : Double} (h : x.finite = true) : x.toFloat.toBits = x.bits := by
  have hcases := unpack_cases x.bits
  show UInt64.ofBitVec (UnpackedFloat.pack format (UnpackedFloat.unpack format x.bits.toBitVec)) = x.bits
  rw [pack_unpack]
  intro hnan
  rw [hnan] at hcases
  have hfinite : Real.magnitude x.bits < binary64.infinity := of_decide_eq_true h
  exact absurd hcases hfinite.not_gt

/-! ## Numbers -/

/-- The magnitude of a finite double as a number: a significand times a power of two. -/
def size (x : Double) : ℚ :=
  binary64.significand (Real.magnitude x.bits) * 2 ^ binary64.scale (Real.magnitude x.bits)

/-- The number that a double stands for, if it is finite. -/
def value? (x : Double) : Option ℚ :=
  if x.finite then some (if Real.negative x.bits then -x.size else x.size) else none

end Double

section Ratios

theorem Format.toRatio_den_pos (f : Format) (bits : Nat) : 0 < (f.toRatio bits).2 := by
  simp only [toRatio]
  split
  · exact Nat.one_pos
  · exact Nat.two_pow_pos _

theorem Format.toRatio_eq (f : Format) (bits : Nat) :
    ((f.toRatio bits).1 : ℚ) / (f.toRatio bits).2 = f.significand bits * 2 ^ f.scale bits := by
  simp only [toRatio]
  split
  · next n h =>
    rw [h]
    simp
  · next n h =>
    rw [h]
    simp [zpow_negSucc, div_eq_mul_inv]

theorem significand_pos_iff (bits : Nat) : 0 < binary64.significand bits ↔ 0 < bits := by
  have hlead : binary64.leadingBit = 2 ^ 52 := rfl
  simp only [Format.significand, hlead]
  split <;> omega

/-- A quotient is rounded up by a division. -/
theorem div_ceil_eq (num : Nat) {den : Nat} (hden : 0 < den) : (num + den - 1) / den = ⌈(num : ℚ) / den⌉₊ := by
  have hden' : (0 : ℚ) < den := Nat.cast_pos.2 hden
  refine eq_of_forall_ge_iff fun c => ?_
  rw [← Nat.ceilDiv_eq_add_pred_div, ceilDiv_le_iff_le_mul hden, Nat.ceil_le, div_le_iff₀ hden', mul_comm]
  exact_mod_cast Iff.rfl

end Ratios

namespace Double

theorem size_nonneg (x : Double) : 0 ≤ x.size := by
  unfold size
  positivity

theorem size_pos_iff (x : Double) : 0 < x.size ↔ 0 < Real.magnitude x.bits := by
  have hpower : (0 : ℚ) < 2 ^ binary64.scale (Real.magnitude x.bits) := by positivity
  rw [size, mul_pos_iff_of_pos_right hpower, Nat.cast_pos, significand_pos_iff]

/-- The double is finite and greater than zero exactly if it stands for a number that is. -/
theorem positive_finite_iff (x : Double) :
    (x.positive && x.finite) = true ↔ ∃ v, x.value? = some v ∧ 0 < v := by
  cases hfinite : x.finite with
  | false => simp [value?, hfinite]
  | true =>
    have hmagnitude : Real.magnitude x.bits ≤ binary64.infinity := (of_decide_eq_true hfinite).le
    have hnonneg := x.size_nonneg
    simp only [value?, hfinite, if_true, positive, decide_eq_true hmagnitude, Bool.and_true, Bool.and_eq_true,
      decide_eq_true_eq, ← size_pos_iff, Option.some.injEq, exists_eq_left']
    cases Real.negative x.bits with
    | false => simp
    | true => simpa using hnonneg

/-- A finite double is rounded up as the number that it stands for. -/
theorem ceilUpTo_eq (bound : Nat) {x : Double} {v : ℚ} (h : x.value? = some v) :
    Real.ceilUpTo bound x.bits = min bound ⌈v⌉₊ := by
  simp only [value?, Option.ite_none_right_eq_some, Option.some.injEq] at h
  obtain ⟨hfinite, rfl⟩ := h
  have hmagnitude : Real.magnitude x.bits < binary64.infinity := of_decide_eq_true hfinite
  simp only [Real.ceilUpTo]
  cases Real.negative x.bits with
  | true =>
    have hceil : ⌈-x.size⌉₊ = 0 := Nat.ceil_eq_zero.2 (neg_nonpos.2 x.size_nonneg)
    simp [hceil]
  | false =>
    rw [div_ceil_eq _ (Format.toRatio_den_pos ..), Format.toRatio_eq]
    simp only [Bool.false_or, decide_eq_true_eq, if_neg hmagnitude.not_gt, if_neg hmagnitude.ne]
    rfl

end Double

end TelemetryGateway.Number
