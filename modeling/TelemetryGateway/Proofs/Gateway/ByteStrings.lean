import Mathlib
import TelemetryGateway.Proofs.Access.Credentials
import TelemetryGateway.Proofs.Text.Base64.Spelling
import TelemetryGateway.Telemetry.Form.Kind

/-!
# Byte strings in texts from clients

Clients write byte strings in base64 in two places: what follows the scheme in an authorization value, and the
identifiers of a packet in JSON. In both places each byte string has one text, and every other text is refused. An
authorization value may have blanks around its text, a field of a packet may not.

## Main definitions

- `Credentials.judge`: the verdict on the bytes of an authorization value

## Main statements

- `Credentials.check_scheme`: the verdict on an authorization value by its bytes
- `Form.bytes_string_eq_ok_iff`, `Form.bytes_string_eq_error_iff`: the texts in the fields of a packet
- `Gateway.byteStrings_canonical`: the texts of byte strings
-/

namespace TelemetryGateway

open TelemetryGateway.Access
open TelemetryGateway.Telemetry
open TelemetryGateway.Text

/-! ## Authorization values -/

namespace Access.Credentials

/-- The verdict on the bytes of an authorization value. -/
def judge (c : Credentials) (bytes : List UInt8) : Except Denial Unit :=
  match splitAtColon bytes with
  | none => .error .malformedValue
  | some (username, password) => if c.accepts username password then .ok () else .error .invalidCredentials

theorem judge_ne_invalidEncoding (c : Credentials) (bytes : List UInt8) : c.judge bytes ≠ .error .invalidEncoding := by
  rw [judge]
  split
  · simp
  · split <;> simp

/-- Behind the scheme and between blanks stands the text of a byte string, which is judged. -/
theorem check_scheme (c : Credentials) (rest : List Char) :
    c.check (some (String.ofList (scheme ++ rest))) =
      ((Base64.decodeChars (trimChars rest)).map c.judge).getD (.error .invalidEncoding) := by
  have hscheme : afterScheme? (String.ofList (scheme ++ rest)) = some rest :=
    afterScheme?_eq_some_iff.2 String.toList_ofList
  simp only [check, hscheme]
  cases Base64.decodeChars (trimChars rest) <;> rfl

theorem check_scheme_of_encoded (c : Credentials) {rest : List Char} {bytes : List UInt8}
    (h : trimChars rest = Base64.encodeChars bytes) :
    c.check (some (String.ofList (scheme ++ rest))) = c.judge bytes := by
  rw [check_scheme, Base64.decodeChars_eq_some_iff.2 h]
  rfl

theorem check_scheme_eq_invalidEncoding_iff (c : Credentials) (rest : List Char) :
    c.check (some (String.ofList (scheme ++ rest))) = .error .invalidEncoding ↔ Base64.Flawed (trimChars rest) := by
  rw [← Base64.decodeChars_eq_none_iff, check_scheme]
  cases hdecode : Base64.decodeChars (trimChars rest) with
  | none => simp
  | some bytes => simp [c.judge_ne_invalidEncoding bytes]

end Access.Credentials

/-! ## Fields in JSON -/

theorem Telemetry.Form.bytes_string_eq_ok_iff {s : String} {b : List UInt8} :
    bytes (.string s) = .ok b ↔ s = Base64.encode b := by
  rw [← Base64.decode_eq_some_iff, bytes]
  cases Base64.decode s <;> simp

theorem Telemetry.Form.bytes_string_eq_error_iff {s : String} :
    bytes (.string s) = .error .form ↔ Base64.Flawed s.toList := by
  rw [← Base64.decode_eq_none_iff, bytes]
  cases Base64.decode s <;> simp

/-! ## Both places -/

/-- **Each byte string has one text.** It is the padded text by the rule of base64, and it is read back as the byte
string. A text is refused for a foreign character, misplaced padding, an incomplete group or spare bits that are not
zero, and for nothing else; blanks are foreign, and so are the letters that only the alphabet for URLs has. This goes
for the fields of a packet, and for what stands between blanks behind the scheme of an authorization value, where the
verdict is that on the bytes. -/
theorem Gateway.byteStrings_canonical :
    (∀ (s : String) (b : List UInt8), Base64.decode s = some b ↔ s = Base64.encode b) ∧
      (∀ (s : String) (b : List UInt8), s = Base64.encode b ↔ Base64.Spells s.toList b) ∧
      (∀ b : List UInt8, ∃! s : String, Base64.decode s = some b) ∧
      (∀ s : String, Base64.decode s = none ↔ Base64.Flawed s.toList) ∧
      (∀ c : Char, isBlank c = true ∨ c = '-' ∨ c = '_' → Base64.Foreign c) ∧
      (∀ s : String, (∀ b, Form.bytes (.string s) = .ok b ↔ s = Base64.encode b) ∧
        (Form.bytes (.string s) = .error .form ↔ Base64.Flawed s.toList)) ∧
      (∀ (c : Credentials) (rest : List Char),
        (∀ b, trimChars rest = (Base64.encode b).toList →
          c.check (some (String.ofList (scheme ++ rest))) = c.judge b) ∧
        (c.check (some (String.ofList (scheme ++ rest))) = .error .invalidEncoding ↔
          Base64.Flawed (trimChars rest))) := by
  refine ⟨fun s b => Base64.decode_eq_some_iff, fun s b => ?_, fun b => ?_, fun s => Base64.decode_eq_none_iff,
    fun c => Base64.foreign_of_blank_or_url,
    fun s => ⟨fun b => Form.bytes_string_eq_ok_iff, Form.bytes_string_eq_error_iff⟩,
    fun c rest => ⟨fun b htext => ?_, c.check_scheme_eq_invalidEncoding_iff rest⟩⟩
  · rw [← Base64.decode_eq_some_iff]
    exact Base64.decodeChars_eq_some_iff_spells
  · exact ⟨Base64.encode b, Base64.decode_encode b, fun s hs => Base64.decode_eq_some_iff.1 hs⟩
  · rw [Base64.encode, String.toList_ofList] at htext
    exact c.check_scheme_of_encoded htext

/-- The text of two bytes, and texts that careless readers take for it. Credentials go through with blanks around
their text. -/
theorem Gateway.byteStrings_canonical_lookalikes :
    Base64.decode "QUI=" = some [0x41, 0x42] ∧ Base64.decode "QUI" = none ∧ Base64.decode "QUI==" = none ∧
      Base64.decode "QUJ=" = none ∧ Base64.decode "QUI=\n" = none ∧
      (isBlank ' ' = true ∧ Base64.decode "QU I=" = none) ∧ Base64.decode "-_8=" = none ∧
      trimChars " dTpw ".toList = (Base64.encode (utf8 "u:p")).toList ∧
      Credentials.check ⟨"u", "p"⟩ (some (String.ofList (scheme ++ " dTpw ".toList))) = .ok () := by
  obtain ⟨hread, -, -, hnone, hforeign, -, hauth⟩ := Gateway.byteStrings_canonical
  have hblank : isBlank ' ' = true := by decide
  have htext : trimChars " dTpw ".toList = (Base64.encode (utf8 "u:p")).toList := by decide +kernel
  have hincomplete (padding : Nat) (h : ¬ (padding ≤ 2 ∧ 4 ∣ 3 + padding)) :
      Base64.Flawed (Base64.padded [16, 20, 8] padding) := .incomplete h
  -- The last digit of the text is eight, whose last two bits are zero
  have hspare : Base64.Flawed (Base64.padded [16, 20, 9] 1) := .spareBits (by decide +kernel)
  refine ⟨(hread _ _).2 (by decide +kernel), (hnone _).2 ?_, (hnone _).2 ?_, (hnone _).2 ?_, (hnone _).2 ?_,
    ⟨hblank, (hnone _).2 ?_⟩, (hnone _).2 ?_, htext, ?_⟩
  · exact hincomplete 0 (by decide)
  · exact hincomplete 2 (by decide)
  · exact hspare
  · exact .foreign (c := '\n') (by decide +kernel) (hforeign _ (.inl (by decide)))
  · exact .foreign (c := ' ') (by decide +kernel) (hforeign _ (.inl hblank))
  · exact .foreign (c := '-') (by decide +kernel) (hforeign _ (.inr (.inl rfl)))
  · rw [(hauth ⟨"u", "p"⟩ " dTpw ".toList).1 _ htext]
    decide +kernel

end TelemetryGateway
