import Mathlib
import TelemetryGateway.Ingest.Identifier

/-!
# Which bytes are identifiers

## Main definitions

- `IsIdentifier`: the bytes of identifiers of version 7
- `Misfit`: other bytes, with the first reason why they are none

## Main statements

- `isIdentifier_or_misfit`: bytes are an identifier, or there is a reason
- `checkIdentifier_eq_ok_iff`, `checkIdentifier_eq_error_iff`: the verdict on bytes
-/

namespace TelemetryGateway.Ingest

/-- Sixteen bytes, of which the seventh has a seven in its high half and the ninth starts with the bits one and
zero. -/
structure IsIdentifier (bytes : List UInt8) : Prop where
  length : bytes.length = 16
  version : bytes.getD 6 0 >>> 4 = 7
  variant : bytes.getD 8 0 >>> 6 = 0b10

/-- Bytes that are no identifier, with the first reason that there is. -/
inductive Misfit (field : IdentifierField) : List UInt8 → IdentifierError → Prop
  | missing : Misfit field [] (.missing field)
  | invalidLength {bytes : List UInt8} (hsome : bytes ≠ []) (hlength : bytes.length ≠ 16) :
      Misfit field bytes (.invalidLength field bytes.length)
  | wrongVersion {bytes : List UInt8} (hlength : bytes.length = 16) (hversion : bytes.getD 6 0 >>> 4 ≠ 7) :
      Misfit field bytes (.wrongVersion field (bytes.getD 6 0 >>> 4).toNat bytes)
  | invalidVariant {bytes : List UInt8} (hlength : bytes.length = 16) (hversion : bytes.getD 6 0 >>> 4 = 7)
      (hvariant : bytes.getD 8 0 >>> 6 ≠ 0b10) : Misfit field bytes (.invalidVariant field)

/-! ## Halves and bits of a byte -/

theorem versionOf_eq (bytes : List UInt8) : versionOf bytes = (bytes.getD 6 0 >>> 4).toNat := by
  rw [UInt8.toNat_shiftRight, Nat.shiftRight_eq_div_pow]
  rfl

theorem versionOf_eq_seven_iff {bytes : List UInt8} : versionOf bytes = 7 ↔ bytes.getD 6 0 >>> 4 = 7 := by
  rw [versionOf_eq, ← UInt8.toNat_inj]
  rfl

theorem standardVariant_iff {bytes : List UInt8} :
    standardVariant bytes = true ↔ bytes.getD 8 0 >>> 6 = 0b10 := by
  rw [standardVariant, decide_eq_true_iff, ← UInt8.toNat_inj, UInt8.toNat_shiftRight, Nat.shiftRight_eq_div_pow]
  rfl

/-! ## The verdict -/

/-- Bytes are an identifier, or there is a reason. The cases are those of the check, in its order. -/
theorem isIdentifier_or_misfit (field : IdentifierField) (bytes : List UInt8) :
    IsIdentifier bytes ∨ ∃ e, Misfit field bytes e := by
  by_cases hsome : bytes = []
  · rw [hsome]
    exact .inr ⟨_, .missing⟩
  by_cases hlength : bytes.length = 16
  · by_cases hversion : bytes.getD 6 0 >>> 4 = 7
    · by_cases hvariant : bytes.getD 8 0 >>> 6 = 0b10
      · exact .inl ⟨hlength, hversion, hvariant⟩
      · exact .inr ⟨_, .invalidVariant hlength hversion hvariant⟩
    · exact .inr ⟨_, .wrongVersion hlength hversion⟩
  · exact .inr ⟨_, .invalidLength hsome hlength⟩

theorem checkIdentifier_of_length {field : IdentifierField} {bytes : List UInt8} (h : bytes.length = 16) :
    checkIdentifier field bytes =
      if versionOf bytes ≠ 7 then .error (.wrongVersion field (versionOf bytes) bytes)
      else if standardVariant bytes then .ok ()
      else .error (.invalidVariant field) := by
  have hsome : ¬ bytes.isEmpty = true := by
    intro hempty
    rw [List.isEmpty_iff.1 hempty] at h
    cases h
  rw [checkIdentifier, if_neg hsome, if_neg (not_not.2 h)]

theorem checkIdentifier_of_isIdentifier {bytes : List UInt8} (h : IsIdentifier bytes) (field : IdentifierField) :
    checkIdentifier field bytes = .ok () := by
  rw [checkIdentifier_of_length h.length, if_neg (not_not.2 (versionOf_eq_seven_iff.2 h.version)),
    if_pos (standardVariant_iff.2 h.variant)]

theorem checkIdentifier_of_misfit {field : IdentifierField} {bytes : List UInt8} {e : IdentifierError}
    (h : Misfit field bytes e) : checkIdentifier field bytes = .error e := by
  cases h with
  | missing => rfl
  | invalidLength hsome hlength =>
    rw [checkIdentifier, if_neg (mt List.isEmpty_iff.1 hsome), if_pos hlength]
  | wrongVersion hlength hversion =>
    rw [checkIdentifier_of_length hlength, if_pos (mt versionOf_eq_seven_iff.1 hversion), versionOf_eq]
  | invalidVariant hlength hversion hvariant =>
    rw [checkIdentifier_of_length hlength, if_neg (not_not.2 (versionOf_eq_seven_iff.2 hversion)),
      if_neg (mt standardVariant_iff.1 hvariant)]

theorem checkIdentifier_eq_ok_iff {field : IdentifierField} {bytes : List UInt8} :
    checkIdentifier field bytes = .ok () ↔ IsIdentifier bytes := by
  constructor
  · intro hok
    rcases isIdentifier_or_misfit field bytes with h | ⟨e, h⟩
    · exact h
    · rw [checkIdentifier_of_misfit h] at hok
      cases hok
  · intro h
    exact checkIdentifier_of_isIdentifier h field

theorem checkIdentifier_eq_error_iff {field : IdentifierField} {bytes : List UInt8} {e : IdentifierError} :
    checkIdentifier field bytes = .error e ↔ Misfit field bytes e := by
  constructor
  · intro herror
    rcases isIdentifier_or_misfit field bytes with h | ⟨e', h⟩
    · rw [checkIdentifier_of_isIdentifier h] at herror
      cases herror
    · rw [checkIdentifier_of_misfit h] at herror
      cases herror
      exact h
  · exact checkIdentifier_of_misfit

/-- Every reason names the field that is checked. -/
theorem Misfit.field_eq {field : IdentifierField} {bytes : List UInt8} {e : IdentifierError}
    (h : Misfit field bytes e) : e.field = field := by
  cases h <;> rfl

end TelemetryGateway.Ingest
