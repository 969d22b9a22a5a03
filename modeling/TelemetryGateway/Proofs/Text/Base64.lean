import Mathlib
import TelemetryGateway.Text.Base64
import TelemetryGateway.Text.Blank

/-!
# Base64 text read back

Each byte string has one text, and no other text is read as the byte string.

## Main statements

- `decode_encode`: the text of a byte string spells the byte string
- `decodeChars_eq_some_iff`: no other text does
-/

namespace TelemetryGateway.Text.Base64

theorem value?_digit : ∀ n < 64, value? (digit n) = some n := by
  decide

theorem digit_ne_padding : ∀ n < 64, digit n ≠ '=' := by
  decide

/-- A group of four characters without padding, in front of whatever follows. -/
theorem decodeChars_group {a b c d : Char} {w x y z : Nat} (ha : value? a = some w)
    (hb : value? b = some x) (hc : value? c = some y) (hd : value? d = some z) (hpad : d ≠ '=')
    (rest : List Char) :
    decodeChars (a :: b :: c :: d :: rest) = (decodeChars rest).map fun tail =>
      UInt8.ofNat ((((w * 64 + x) * 64 + y) * 64 + z) / 65536) ::
        UInt8.ofNat ((((w * 64 + x) * 64 + y) * 64 + z) / 256) ::
          UInt8.ofNat (((w * 64 + x) * 64 + y) * 64 + z) :: tail := by
  rw [decodeChars]
  · simp only [ha, hb, hc, hd, bind, Option.bind_some]
    cases decodeChars rest <;> rfl
  · simp [hpad]
  · simp [hpad]

/-- A byte is the low eight bits of a number. -/
theorem ofNat_eq_of_mod {n : Nat} {a : UInt8} (h : n % 256 = a.toNat) : UInt8.ofNat n = a := by
  apply UInt8.toNat_inj.1
  rw [UInt8.toNat_ofNat']
  exact h

/-- The induction follows the groups of three bytes. -/
theorem decodeChars_encodeChars (bs : List UInt8) : decodeChars (encodeChars bs) = some bs := by
  induction bs using encodeChars.induct with
  | case1 => rfl
  -- One byte: two digits, the second with four bits to spare
  | case2 a =>
    have ha := a.toNat_lt
    have hdigits : a.toNat * 16 / 64 * 64 + a.toNat * 16 % 64 = a.toNat * 16 := by omega
    have hbits : a.toNat * 16 % 16 = 0 := by omega
    simp only [encodeChars, decodeChars, value?_digit _ (show a.toNat * 16 / 64 < 64 by omega),
      value?_digit _ (Nat.mod_lt _ (show 0 < 64 by decide)), bind, Option.bind_some, hdigits, hbits, if_true]
    rw [ofNat_eq_of_mod (show a.toNat * 16 / 16 % 256 = a.toNat by omega)]
  -- Two bytes: three digits, the third with two bits to spare
  | case3 a b =>
    have ha := a.toNat_lt
    have hb := b.toNat_lt
    generalize hn : (a.toNat * 256 + b.toNat) * 4 = n
    have hdigits : (n / 4096 * 64 + n / 64 % 64) * 64 + n % 64 = n := by omega
    have hbits : n % 4 = 0 := by omega
    have hpad := digit_ne_padding (n % 64) (Nat.mod_lt _ (by decide))
    simp only [encodeChars, hn]
    rw [decodeChars]
    · simp only [value?_digit _ (show n / 4096 < 64 by omega),
        value?_digit _ (Nat.mod_lt _ (show 0 < 64 by decide)), bind, Option.bind_some, hdigits, hbits, if_true]
      rw [ofNat_eq_of_mod (show n / 1024 % 256 = a.toNat by omega),
        ofNat_eq_of_mod (show n / 4 % 256 = b.toNat by omega)]
    · simpa using hpad
  -- A group of three, in front of the rest
  | case4 a b c rest ih =>
    have ha := a.toNat_lt
    have hb := b.toNat_lt
    have hc := c.toNat_lt
    generalize hn : (a.toNat * 256 + b.toNat) * 256 + c.toNat = n
    have hlt {k : Nat} : k % 64 < 64 := Nat.mod_lt _ (by decide)
    have hdigits : ((n / 262144 * 64 + n / 4096 % 64) * 64 + n / 64 % 64) * 64 + n % 64 = n := by omega
    simp only [encodeChars, hn]
    rw [decodeChars_group (value?_digit _ (by omega)) (value?_digit _ hlt) (value?_digit _ hlt)
      (value?_digit _ hlt) (digit_ne_padding _ hlt), ih, hdigits]
    rw [ofNat_eq_of_mod (show n / 65536 % 256 = a.toNat by omega),
      ofNat_eq_of_mod (show n / 256 % 256 = b.toNat by omega),
      ofNat_eq_of_mod (show n % 256 = c.toNat by omega)]
    rfl

/-- The text of a byte string spells the byte string. -/
theorem decode_encode (bs : List UInt8) : decode (encode bs) = some bs := by
  rw [decode, encode, String.toList_ofList, decodeChars_encodeChars]

/-! ## One text for each byte string -/

/-- Only the characters of the alphabet stand for numbers. -/
theorem digit_of_value? {c : Char} {n : Nat} (h : value? c = some n) : n < 64 ∧ digit n = c := by
  have hself (m : Nat) (hm : m = c.toNat) : Char.ofNat m = c := by rw [hm, Char.ofNat_toNat]
  simp only [value?] at h
  split at h
  · next hc =>
    obtain rfl := Option.some.inj h
    exact ⟨by omega, by rw [digit, if_pos (by omega), hself _ (by omega)]⟩
  split at h
  · next hc =>
    obtain rfl := Option.some.inj h
    exact ⟨by omega, by rw [digit, if_neg (by omega), if_pos (by omega), hself _ (by omega)]⟩
  split at h
  · next hc =>
    obtain rfl := Option.some.inj h
    exact ⟨by omega, by
      rw [digit, if_neg (by omega), if_neg (by omega), if_pos (by omega), hself _ (by omega)]⟩
  split at h
  · next hc =>
    obtain rfl := Option.some.inj h
    exact ⟨by decide, hc ▸ by decide⟩
  split at h
  · next hc =>
    obtain rfl := Option.some.inj h
    exact ⟨by decide, hc ▸ by decide⟩
  · cases h

/-- A text that spells a byte string is the text of that byte string. The induction follows the groups of four
characters. -/
theorem encodeChars_of_decodeChars {cs : List Char} {bs : List UInt8} (h : decodeChars cs = some bs) :
    encodeChars bs = cs := by
  fun_induction decodeChars cs generalizing bs with
  | case1 =>
    obtain rfl := Option.some.inj h
    rfl
  -- Two digits, of which the second has four bits to spare
  | case2 a b =>
    simp only [bind, Option.bind_eq_some_iff, Option.ite_none_right_eq_some, Option.some.injEq] at h
    obtain ⟨x, ha, y, hb, hspare, rfl⟩ := h
    obtain ⟨hx, rfl⟩ := digit_of_value? ha
    obtain ⟨hy, rfl⟩ := digit_of_value? hb
    have hbyte : (UInt8.ofNat ((x * 64 + y) / 16)).toNat * 16 = x * 64 + y := by
      rw [UInt8.toNat_ofNat', Nat.mod_eq_of_lt (by omega)]
      omega
    rw [encodeChars]
    simp only [hbyte, show (x * 64 + y) / 64 = x by omega, show (x * 64 + y) % 64 = y by omega]
  -- Three digits, of which the third has two bits to spare
  | case3 a b c hc =>
    simp only [bind, Option.bind_eq_some_iff, Option.ite_none_right_eq_some, Option.some.injEq] at h
    obtain ⟨x, ha, y, hb, z, hc, hspare, rfl⟩ := h
    obtain ⟨hx, rfl⟩ := digit_of_value? ha
    obtain ⟨hy, rfl⟩ := digit_of_value? hb
    obtain ⟨hz, rfl⟩ := digit_of_value? hc
    generalize hn : (x * 64 + y) * 64 + z = n at hspare
    have hbytes : ((UInt8.ofNat (n / 1024)).toNat * 256 + (UInt8.ofNat (n / 4)).toNat) * 4 = n := by
      simp only [UInt8.toNat_ofNat']
      omega
    rw [encodeChars]
    simp only [hbytes, show n / 4096 = x by omega, show n / 64 % 64 = y by omega, show n % 64 = z by omega]
  -- A group of four digits in front of the rest
  | case4 a b c d rest _ _ ih =>
    simp only [bind, Option.bind_eq_some_iff, Option.some.injEq] at h
    obtain ⟨w, ha, x, hb, y, hc, z, hd, tail, htail, rfl⟩ := h
    obtain ⟨hw, rfl⟩ := digit_of_value? ha
    obtain ⟨hx, rfl⟩ := digit_of_value? hb
    obtain ⟨hy, rfl⟩ := digit_of_value? hc
    obtain ⟨hz, rfl⟩ := digit_of_value? hd
    generalize hn : ((w * 64 + x) * 64 + y) * 64 + z = n
    have hbytes : ((UInt8.ofNat (n / 65536)).toNat * 256 + (UInt8.ofNat (n / 256)).toNat) * 256 +
        (UInt8.ofNat n).toNat = n := by
      simp only [UInt8.toNat_ofNat']
      omega
    rw [encodeChars, ih htail]
    simp only [hbytes, show n / 262144 = w by omega, show n / 4096 % 64 = x by omega,
      show n / 64 % 64 = y by omega, show n % 64 = z by omega]
  | case5 => cases h

/-- A text spells a byte string if and only if it is the text of that byte string. -/
theorem decodeChars_eq_some_iff {cs : List Char} {bs : List UInt8} :
    decodeChars cs = some bs ↔ cs = encodeChars bs :=
  ⟨fun h => (encodeChars_of_decodeChars h).symm, fun h => h ▸ decodeChars_encodeChars bs⟩

theorem encodeChars_injective : Function.Injective encodeChars := by
  intro bs bs' h
  have hdecode := decodeChars_encodeChars bs
  rw [h, decodeChars_encodeChars] at hdecode
  exact (Option.some.inj hdecode).symm

theorem digit_visible : ∀ n < 64, 0x20 ≤ (digit n).toNat ∧ (digit n).toNat < 0x7F := by
  decide +kernel

/-- What holds of the alphabet and of the padding holds of every character of a text. -/
theorem forall_mem_encodeChars {P : Char → Prop} (hdigit : ∀ n < 64, P (digit n)) (hpadding : P '=')
    (bs : List UInt8) : ∀ c ∈ encodeChars bs, P c := by
  induction bs using encodeChars.induct with
  | case1 => simp [encodeChars]
  | case2 a =>
    have ha := a.toNat_lt
    simp only [encodeChars, List.forall_mem_cons]
    exact ⟨hdigit _ (by omega), hdigit _ (by omega), hpadding, hpadding, by simp⟩
  | case3 a b =>
    have ha := a.toNat_lt
    have hb := b.toNat_lt
    simp only [encodeChars, List.forall_mem_cons]
    exact ⟨hdigit _ (by omega), hdigit _ (by omega), hdigit _ (by omega), hpadding, by simp⟩
  | case4 a b c rest ih =>
    have ha := a.toNat_lt
    have hb := b.toNat_lt
    have hc := c.toNat_lt
    simp only [encodeChars, List.forall_mem_cons]
    exact ⟨hdigit _ (by omega), hdigit _ (by omega), hdigit _ (by omega), hdigit _ (by omega), ih⟩

/-- There are no blanks in the text of a byte string. -/
theorem trimChars_encodeChars (bs : List UInt8) : trimChars (encodeChars bs) = encodeChars bs :=
  trimChars_of_not_blank (forall_mem_encodeChars (by decide) (by decide) bs)

end TelemetryGateway.Text.Base64
