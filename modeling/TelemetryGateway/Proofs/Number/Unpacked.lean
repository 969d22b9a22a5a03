import Mathlib
import TelemetryGateway.Proofs.Number.Double
import TelemetryGateway.Proofs.Number.Mantissa

/-!
# Unpacked floats and what they stand for

A float is worked on in its parts and then packed. What is packed has at most fifty-three bits, and all of them where
its exponent is not the least; then packing keeps it, or makes it infinite where it is too great.

## Main definitions

- `quantityOf`: the number or infinity that an unpacked float stands for
- `Canonical`: as many bits as there is room for
- `packedQuantity`: what an unpacked float stands for once it is packed

## Main statements

- `canonical_unpack`: what is unpacked is canonical
- `packedQuantity_finite`: what becomes of a float that fits
- `packedQuantity_round`: what becomes of a mantissa, an exponent and their accuracy
-/

namespace TelemetryGateway.Number

open Float.Model (UnpackedFloat)
open Float.Model.UnpackedFloat
open Double (format)

/-- Whether a sign is the minus sign. -/
def negative : Sign → Bool
  | .negative => true
  | .positive => false

/-- A number with a sign. -/
def signed : Sign → ℚ → ℚ
  | .negative, q => -q
  | .positive, q => q

@[simp] theorem signed_zero (s : Sign) : signed s 0 = 0 := by
  cases s with
  | negative => exact neg_zero
  | positive => rfl

/-- Rounding leaves a sign alone. -/
theorem roundedSigned_signed (s : Sign) {x : ℚ} (h : 0 ≤ x) : roundedSigned (signed s x) = signed s (rounded x) := by
  cases s with
  | negative => rw [signed, signed, roundedSigned_neg, roundedSigned_of_nonneg h]
  | positive => rw [signed, signed, roundedSigned_of_nonneg h]

/-- The number or infinity that an unpacked float stands for. -/
def quantityOf : UnpackedFloat → Quantity
  | .infinity s => .infinite (negative s)
  | .notANumber => .invalid
  | .zero _ => .number 0
  | .finite s m e _ => .number (signed s (m * 2 ^ e))

/-! ## Room -/

/-- There are at most fifty-three bits, and fewer only at the least exponent. -/
structure Fits (m : Nat) (e : ℤ) : Prop where
  lt : m < 2 ^ 53
  least : -1074 ≤ e
  full : 2 ^ 52 ≤ m ∨ e = -1074

theorem fits_full {k : ℤ} (h : -1074 ≤ k) : Fits (2 ^ 52) k := ⟨by norm_num, h, .inl le_rfl⟩

/-- A significand that is rounded up to fifty-four bits is as good as one of fifty-three, one exponent up. -/
theorem carry_eq (k : ℤ) : ((2 ^ 52 : Nat) : ℚ) * 2 ^ (k + 1) = (2 ^ 53 : Nat) * 2 ^ k := by
  rw [power_add]
  push_cast
  ring

/-- What a number is rounded to fits, unless it carries. -/
theorem fits_nearest {x : ℚ} (hpos : 0 < x) (hlt : nearest (x / 2 ^ scaleOf x) < 2 ^ 53) :
    Fits (nearest (x / 2 ^ scaleOf x)) (scaleOf x) := by
  have hleast : -1074 ≤ scaleOf x := le_max_right _ _
  refine ⟨hlt, hleast, ?_⟩
  obtain heq | hscale := hleast.eq_or_lt
  · exact .inr heq.symm
  · exact .inl (le_nearest_significand hpos hscale)

def Canonical : UnpackedFloat → Prop
  | .finite _ m e _ => Fits m e
  | _ => True

/-! ## Packing -/

theorem sign_eq_of_toNat {s t : Sign} (h : s.toBitVec.toNat = t.toBitVec.toNat) : s = t := by
  cases s <;> cases t <;> first | rfl | cases h

theorem signOf_packComponents (s : Sign) (e : BitVec 11) (m : BitVec 52) :
    Double.signOf (packComponents format s e m) = s := by
  have hs := s.toBitVec.isLt
  have he := e.isLt
  have hm := m.isLt
  apply sign_eq_of_toNat
  rw [Double.toNat_signOf, Double.toNat_packComponents]
  omega

theorem finite_congr {s : Sign} {m m' : Nat} {e e' : ℤ} (hm : m = m') (he : e = e') {h : 0 < m} {h' : 0 < m'} :
    UnpackedFloat.finite s m e h = .finite s m' e' h' := by
  subst hm he
  rfl

/-- What a pattern says that is put together from its parts. -/
theorem unpack_normal (s : Sign) {e : BitVec 11} (m : BitVec 52) (hinf : e.toNat < 2047) (hsub : e.toNat ≠ 0) :
    unpack format (packComponents format s e m) =
      .finite s (1#1 ++ m).toNat (e.toNat - 1075 : ℤ) (by rw [Double.toNat_significand]; omega) := by
  have hsign : Sign.ofBitVec (@unpackSign format (packComponents format s e m)) = s := signOf_packComponents s e m
  have hinf' : e ≠ -1#11 := by
    intro h
    simp [h] at hinf
  have hsub' : e ≠ 0#11 := by
    intro h
    simp [h] at hsub
  simp only [UnpackedFloat.unpack, unpackMantissa_packComponents, unpackExponent_packComponents, hsign, if_neg hinf',
    if_neg hsub']
  rfl

theorem unpack_subnormal (s : Sign) {m : BitVec 52} (hpos : 0 < m.toNat) :
    unpack format (packComponents format s 0 m) = .finite s m.toNat (-1074) hpos := by
  have hsign : Sign.ofBitVec (@unpackSign format (packComponents format s 0 m)) = s := signOf_packComponents s 0 m
  have hsome : m ≠ 0#52 := by
    intro h
    simp [h] at hpos
  simp only [UnpackedFloat.unpack, unpackMantissa_packComponents, unpackExponent_packComponents, hsign]
  rw [if_neg (by decide), if_pos (by decide), dif_neg hsome]
  rfl

theorem unpack_packedInfinity (s : Sign) : unpack format (packedInfinity format s) = .infinity s := by
  have hsign : Sign.ofBitVec (@unpackSign format (packComponents format s (-1#11) 0)) = s :=
    signOf_packComponents s (-1#11) 0
  simp only [UnpackedFloat.unpack, packedInfinity, unpackMantissa_packComponents, unpackExponent_packComponents, hsign]
  rfl

theorem unpack_packedZero (s : Sign) : unpack format (packedZero format s) = .zero s := by
  have hsign : Sign.ofBitVec (@unpackSign format (packComponents format s 0 0)) = s := signOf_packComponents s 0 0
  simp only [UnpackedFloat.unpack, packedZero, unpackMantissa_packComponents, unpackExponent_packComponents, hsign]
  rfl

theorem toNat_packedInfinity (s : Sign) :
    (packedInfinity format s).toNat = s.toBitVec.toNat * 2 ^ 63 + 2047 * 2 ^ 52 := by
  have hexponent : (-1#11).toNat = 2047 := by decide
  have hfraction : (0 : BitVec 52).toNat = 0 := by decide
  have hparts := Double.toNat_packComponents s (-1#11) 0
  rw [hexponent, hfraction] at hparts
  rw [packedInfinity]
  refine hparts.trans ?_
  omega

/-- A float that fits and is not too great has a pattern: the exponent, counted from the least, and the mantissa, which
carries into it with its leading bit. -/
theorem exists_pattern (s : Sign) {m : Nat} {e : ℤ} (hpos : 0 < m) (hfits : Fits m e) (he : e < 972) :
    ∃ b : BitVec 64, b.toNat = s.toBitVec.toNat * 2 ^ 63 + ((e + 1074).toNat * 2 ^ 52 + m) ∧
      unpack format b = .finite s m e hpos := by
  obtain ⟨hlt, hleast, hfull⟩ := hfits
  by_cases hnormal : 2 ^ 52 ≤ m
  · have hexponent : (BitVec.ofNat 11 (e + 1075).toNat).toNat = (e + 1075).toNat := by
      rw [BitVec.toNat_ofNat]
      omega
    have hfraction : (BitVec.ofNat 52 (m - 2 ^ 52)).toNat = m - 2 ^ 52 := by
      rw [BitVec.toNat_ofNat]
      omega
    have hlead := Double.toNat_significand (BitVec.ofNat 52 (m - 2 ^ 52))
    refine ⟨packComponents format s (BitVec.ofNat 11 (e + 1075).toNat) (BitVec.ofNat 52 (m - 2 ^ 52)), ?_, ?_⟩
    · rw [Double.toNat_packComponents, hexponent, hfraction]
      omega
    · exact (unpack_normal s _ (by omega) (by omega)).trans (finite_congr (by omega) (by omega))
  · have hfraction : (BitVec.ofNat 52 m).toNat = m := by
      rw [BitVec.toNat_ofNat]
      omega
    have hnone : (0 : BitVec 11).toNat = 0 := by decide
    obtain rfl : e = -1074 := hfull.resolve_left hnormal
    refine ⟨packComponents format s 0 (BitVec.ofNat 52 m), ?_, ?_⟩
    · rw [Double.toNat_packComponents, hfraction, hnone]
      omega
    · exact (unpack_subnormal s (by omega)).trans (finite_congr hfraction rfl)

theorem unpack_pack_finite (s : Sign) {m : Nat} {e : ℤ} (hpos : 0 < m) (hfits : Fits m e) (he : e < 972) :
    unpack format (pack format (.finite s m e hpos)) = .finite s m e hpos := by
  obtain ⟨b, -, hb⟩ := exists_pattern s hpos hfits he
  rw [← hb, Double.pack_unpack]
  rw [hb]
  exact UnpackedFloat.noConfusion

theorem unpack_pack_overflow (s : Sign) {m : Nat} {e : ℤ} (hpos : 0 < m) (he : 972 ≤ e) :
    unpack format (pack format (.finite s m e hpos)) = .infinity s := by
  have hbias : 2 ^ format.exponentBits ≤
      (e + format.exponentBias + format.mantissaBitsWithoutImplicit).toNat + 1 := by
    show 2 ^ 11 ≤ (e + (1023 : Nat) + (52 : Nat)).toNat + 1
    omega
  simp only [UnpackedFloat.pack, if_pos hbias]
  exact unpack_packedInfinity s

/-- What is unpacked has as many bits as there is room for. -/
theorem canonical_unpack (b : BitVec 64) : Canonical (unpack format b) := by
  have he := (Double.exponentOf b).isLt
  have hm := (Double.fractionOf b).isLt
  have hexponent : @unpackExponent format b = Double.exponentOf b := rfl
  have hfraction : @unpackMantissa format b = Double.fractionOf b := rfl
  have hbias : ((format.exponentBias : ℤ) + format.mantissaBitsWithoutImplicit) = 1075 := rfl
  simp only [UnpackedFloat.unpack, hexponent, hfraction, hbias]
  split_ifs with hinf hblank hsub hblank
  · trivial
  · trivial
  · trivial
  · rw [hsub]
    exact ⟨by omega, by decide, .inr rfl⟩
  · have hsub' : (Double.exponentOf b).toNat ≠ 0 := fun heq => hsub (BitVec.eq_of_toNat_eq heq)
    have hlead := Double.toNat_significand (Double.fractionOf b)
    exact ⟨by omega, by omega, .inl (by omega)⟩

/-! ## What packing leaves of a number -/

/-- A float that fits is a double exactly if it is not too great. -/
theorem Fits.lt_limit_iff {m : Nat} {e : ℤ} (h : Fits m e) : (m : ℚ) * 2 ^ e < limit ↔ e < 972 := by
  constructor
  · intro hlimit
    by_contra hge
    have hfull : 2 ^ 52 ≤ m := h.full.resolve_right (by omega)
    have hle : limit ≤ m * 2 ^ e := by
      calc limit = 2 ^ (52 : ℤ) * 2 ^ (972 : ℤ) := power_add 52 972
        _ ≤ m * 2 ^ e := mul_le_mul (by exact_mod_cast hfull) (power_mono (by omega)) (power_pos _).le m.cast_nonneg
    exact absurd hlimit hle.not_gt
  · intro hlt
    calc (m : ℚ) * 2 ^ e < 2 ^ (53 : ℤ) * 2 ^ e :=
          mul_lt_mul_of_pos_right (by exact_mod_cast h.lt) (power_pos e)
      _ = 2 ^ (53 + e) := (power_add 53 e).symm
      _ ≤ limit := power_mono (by omega)

theorem abs_signed (s : Sign) {v : ℚ} (hpos : 0 < v) : |signed s v| = v := by
  cases s with
  | negative => rw [signed, abs_neg, abs_of_pos hpos]
  | positive => rw [signed, abs_of_pos hpos]

theorem signed_ne_zero (s : Sign) {v : ℚ} (hpos : 0 < v) : signed s v ≠ 0 := by
  rw [← abs_pos, abs_signed s hpos]
  exact hpos

theorem decide_signed_neg (s : Sign) {v : ℚ} (hpos : 0 < v) : decide (signed s v < 0) = negative s := by
  cases s with
  | negative => exact decide_eq_true (neg_lt_zero.2 hpos)
  | positive => exact decide_eq_false hpos.not_gt

theorem bounded_signed (s : Sign) {v : ℚ} (hpos : 0 < v) :
    Quantity.bounded (signed s v) = if v < limit then .number (signed s v) else .infinite (negative s) := by
  rw [Quantity.bounded, abs_signed s hpos, decide_signed_neg s hpos]

/-- What an unpacked float stands for once it is packed. -/
def packedQuantity (u : UnpackedFloat) : Quantity :=
  quantityOf (unpack format (pack format u))

@[simp] theorem packedQuantity_infinity (s : Sign) : packedQuantity (.infinity s) = .infinite (negative s) := by
  have hpacked : pack format (.infinity s) = packedInfinity format s := rfl
  rw [packedQuantity, hpacked, unpack_packedInfinity]
  rfl

@[simp] theorem packedQuantity_notANumber : packedQuantity .notANumber = .invalid := rfl

@[simp] theorem packedQuantity_zero (s : Sign) : packedQuantity (.zero s) = .number 0 := by
  have hpacked : pack format (.zero s) = packedZero format s := rfl
  rw [packedQuantity, hpacked, unpack_packedZero]
  rfl

/-- A float stands for what it stood for, or for infinity where it was too great. -/
theorem packedQuantity_finite (s : Sign) {m : Nat} {e : ℤ} (hpos : 0 < m) (h : Fits m e) :
    packedQuantity (.finite s m e hpos) = .bounded (signed s (m * 2 ^ e)) := by
  have hvalue : (0 : ℚ) < m * 2 ^ e := mul_pos (Nat.cast_pos.2 hpos) (power_pos e)
  simp only [packedQuantity, bounded_signed s hvalue, h.lt_limit_iff]
  by_cases he : e < 972
  · rw [unpack_pack_finite s hpos h he, if_pos he]
    rfl
  · rw [unpack_pack_overflow s hpos (not_lt.1 he), if_neg he]
    rfl

/-- A float that fits is not rounded. -/
theorem packedQuantity_of_fits (s : Sign) {m : Nat} {e : ℤ} (hpos : 0 < m) (h : Fits m e) :
    packedQuantity (.finite s m e hpos) = Rounding.double.round (signed s (m * 2 ^ e)) := by
  have hvalue : (0 : ℚ) ≤ m * 2 ^ e := mul_nonneg m.cast_nonneg (power_pos e).le
  rw [packedQuantity_finite s hpos h, Rounding.double_round, roundedSigned_signed s hvalue,
    rounded_eq_self h.lt h.least]

/-- A rounded mantissa is packed as it stands, also where it carries. -/
theorem packedQuantity_settle (s : Sign) {x : ℚ} (hpos : 0 < x) :
    packedQuantity (settle s (nearest (x / 2 ^ scaleOf x)) (scaleOf x)) = .bounded (signed s (rounded x)) := by
  have hleast : -1074 ≤ scaleOf x := le_max_right _ _
  have hle := nearest_significand_le x
  unfold settle rounded
  split_ifs with hzero hlt
  · rw [hzero, packedQuantity_zero, Nat.cast_zero, zero_mul, signed_zero, Quantity.bounded_zero]
  · exact packedQuantity_finite s _ (fits_nearest hpos hlt)
  · have hfull : nearest (x / 2 ^ scaleOf x) = 2 ^ 53 := by omega
    rw [hfull, ← carry_eq]
    exact packedQuantity_finite s _ (fits_full (by omega))

/-- **Packing.** A mantissa, an exponent and their accuracy go to the nearest double of the number they come from, or to
infinity. -/
theorem packedQuantity_round (s : Sign) {m : Nat} {e : ℤ} {accuracy : Accuracy} {x : ℚ} (hpos : 0 < x)
    (h : Describes (.ofMantissaAndAccuracy m accuracy) (x / 2 ^ e)) (he : e ≤ scaleOf x) :
    packedQuantity (roundWithAccuracy format s m e accuracy) = Rounding.double.round (signed s x) := by
  rw [roundWithAccuracy_eq s hpos h he, packedQuantity_settle s hpos, Rounding.double_round,
    roundedSigned_signed s hpos.le]

end TelemetryGateway.Number
