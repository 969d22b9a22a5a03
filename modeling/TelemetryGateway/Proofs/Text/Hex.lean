import Mathlib
import TelemetryGateway.Proofs.Text.Bits
import TelemetryGateway.Proofs.Text.Octets
import TelemetryGateway.Text.Hex

/-!
# Hexadecimal text tells bytes apart

## Main statements

- `encode_injective`: different byte strings have different texts
- `mem_encode`: the characters of a text are the sixteen digits
- `decode_encode`: bytes are read back from their text
-/

namespace TelemetryGateway.Text.Hex

theorem digit_injective : ∀ a < 16, ∀ b < 16, digit a = digit b → a = b := by
  decide

theorem digit_mem : ∀ n < 16, digit n ∈ "0123456789abcdef".toList := by
  decide

theorem length_ofByte (b : UInt8) : (ofByte b).length = 2 := rfl

theorem ofByte_injective : Function.Injective ofByte := by
  intro a b h
  have ha := a.toNat_lt
  have hb := b.toNat_lt
  simp only [ofByte, List.cons.injEq, and_true] at h
  -- The two digits of a byte are those of its quotient and remainder by sixteen
  have hhigh := digit_injective _ (by omega) _ (by omega) h.1
  have hlow := digit_injective _ (by omega) _ (by omega) h.2
  apply UInt8.toNat_inj.1
  omega

/-- Different byte strings have different texts. -/
theorem encode_injective : Function.Injective encode := fun _ _ h =>
  flatMap_injective ofByte_injective length_ofByte (by decide) (String.ofList_injective h)

theorem encode_eq_empty_iff {bs : List UInt8} : encode bs = "" ↔ bs = [] :=
  ⟨fun h => encode_injective h, fun h => h ▸ rfl⟩

/-- The characters of a text are the sixteen digits. -/
theorem mem_encode {bs : List UInt8} {c : Char} (h : c ∈ (encode bs).toList) :
    c ∈ "0123456789abcdef".toList := by
  simp only [encode, String.toList_ofList, List.mem_flatMap, ofByte, List.mem_cons, List.not_mem_nil,
    or_false] at h
  obtain ⟨b, -, hc⟩ := h
  have hb := b.toNat_lt
  rcases hc with rfl | rfl
  · exact digit_mem _ (by omega)
  · exact digit_mem _ (by omega)

/-- A digit is one byte, and has its value. -/
theorem value?_digit : ∀ n < 16, (digit n).toNat < 128 ∧ value? (UInt8.ofNat (digit n).toNat) = some n := by
  decide

/-- Bytes are read back from their text. -/
theorem decode_encode (bs : List UInt8) : decode (utf8 (encode bs)) = bs := by
  rw [encode, utf8_ofList]
  induction bs with
  | nil => rfl
  | cons b bs ih =>
    have hb := b.toNat_lt
    obtain ⟨hhigh, hvalue⟩ := value?_digit (b.toNat / 16) (by omega)
    obtain ⟨hlow, hvalue'⟩ := value?_digit (b.toNat % 16) (by omega)
    have hbyte : 16 * (b.toNat / 16) + b.toNat % 16 = b.toNat := by omega
    rw [List.flatMap_cons, ofByte, List.cons_append, List.cons_append, List.nil_append, octets_cons_ascii hhigh,
      octets_cons_ascii hlow, decode]
    simp only [hvalue, hvalue', hbyte, UInt8.ofNat_toNat, ih]

end TelemetryGateway.Text.Hex
