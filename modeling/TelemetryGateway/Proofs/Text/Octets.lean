import Mathlib
import TelemetryGateway.Text.Octets

/-!
# The bytes of a text, character by character

## Main definitions

- `octets`: the UTF-8 bytes of a list of characters

## Main statements

- `utf8_ofList`: the bytes of a text are those of its characters, one after the other
- `octet_ascii`, `le_of_mem_octet`: a character below 128 is one byte, and all others are bytes from 128 on
- `mem_octets_iff`: such a byte is found where its character is
-/

namespace TelemetryGateway.Text

/-- The UTF-8 bytes of a list of characters. -/
def octets (cs : List Char) : List UInt8 :=
  cs.flatMap String.utf8EncodeChar

@[simp] theorem octets_nil : octets [] = [] := rfl

@[simp] theorem octets_append (cs ds : List Char) : octets (cs ++ ds) = octets cs ++ octets ds :=
  List.flatMap_append

theorem octets_cons (c : Char) (cs : List Char) :
    octets (c :: cs) = String.utf8EncodeChar c ++ octets cs :=
  List.flatMap_cons

/-- The bytes of a text are those of its characters, one after the other. -/
theorem utf8_ofList (cs : List Char) : utf8 (String.ofList cs) = octets cs := by
  rw [utf8, String.toUTF8_eq_toByteArray, String.toByteArray_ofList, List.utf8Encode]
  simp [octets]

theorem utf8_eq_octets (s : String) : utf8 s = octets s.toList := by
  rw [← utf8_ofList, String.ofList_toList]

theorem utf8_append (s t : String) : utf8 (s ++ t) = utf8 s ++ utf8 t := by
  simp only [utf8_eq_octets, String.toList_append, octets_append]

/-- Different texts have different bytes. -/
theorem utf8_injective : Function.Injective utf8 := by
  intro s t h
  have hread := ofUtf8?_utf8 s
  rw [h, ofUtf8?_utf8] at hread
  exact (Option.some.inj hread).symm

/-! ## Single characters -/

/-- A character below 128 is one byte. -/
theorem octet_ascii {c : Char} (h : c.toNat < 128) : String.utf8EncodeChar c = [UInt8.ofNat c.toNat] := by
  have hval : c.val.toNat ≤ 0x7f := Nat.le_of_lt_succ h
  simp only [String.utf8EncodeChar, hval, if_true]
  rfl

theorem octets_cons_ascii {c : Char} (h : c.toNat < 128) (cs : List Char) :
    octets (c :: cs) = UInt8.ofNat c.toNat :: octets cs := by
  rw [octets_cons, octet_ascii h]
  rfl

/-- A byte that marks its place in a character, with bits of the character below the mark. -/
private theorem le_marked (n : Nat) {room mark : Nat} (hroom : 0 < room) (hmark : 128 ≤ mark)
    (hfits : room + mark ≤ 256) : 128 ≤ (UInt8.ofNat (n % room + mark)).toNat := by
  have hlt := Nat.mod_lt n hroom
  rw [UInt8.toNat_ofNat', Nat.mod_eq_of_lt (by omega)]
  omega

/-- The bytes of a character from 128 on are from 128 on. -/
theorem le_of_mem_octet {c : Char} (h : 128 ≤ c.toNat) {b : UInt8} (hb : b ∈ String.utf8EncodeChar c) :
    128 ≤ b.toNat := by
  have hval : ¬ c.val.toNat ≤ 0x7f := Nat.not_le.2 h
  have hnext (n : Nat) : 128 ≤ (UInt8.ofNat (n % 64 + 128)).toNat :=
    le_marked n (by decide) (by decide) (by decide)
  -- Two, three or four bytes: the first has a mark from 192 on, and each of the others has 128
  simp only [String.utf8EncodeChar, hval, if_false] at hb
  split at hb
  · rcases List.mem_pair.1 hb with rfl | rfl
    · exact le_marked _ (by decide) (by decide) (by decide)
    · exact hnext _
  · split at hb
    · simp only [List.mem_cons, List.not_mem_nil, or_false] at hb
      rcases hb with rfl | rfl | rfl
      · exact le_marked _ (by decide) (by decide) (by decide)
      · exact hnext _
      · exact hnext _
    · simp only [List.mem_cons, List.not_mem_nil, or_false] at hb
      rcases hb with rfl | rfl | rfl | rfl
      · exact le_marked _ (by decide) (by decide) (by decide)
      · exact hnext _
      · exact hnext _
      · exact hnext _

/-- The byte of a character below 128 is found where the character is. -/
theorem mem_octets_iff {c : Char} (h : c.toNat < 128) {cs : List Char} :
    UInt8.ofNat c.toNat ∈ octets cs ↔ c ∈ cs := by
  have hbyte {d : Char} (hd : d.toNat < 128) : (UInt8.ofNat d.toNat).toNat = d.toNat := by
    rw [UInt8.toNat_ofNat', Nat.mod_eq_of_lt (by omega)]
  have hone (d : Char) : UInt8.ofNat c.toNat ∈ String.utf8EncodeChar d ↔ c = d := by
    rcases Nat.lt_or_ge d.toNat 128 with hascii | hwide
    · rw [octet_ascii hascii, List.mem_singleton]
      constructor
      · intro heq
        have htoNat := congrArg UInt8.toNat heq
        rw [hbyte h, hbyte hascii] at htoNat
        exact Char.toNat_inj.1 htoNat
      · rintro rfl
        rfl
    -- No byte of the other characters is below 128
    · constructor
      · intro hmem
        have hle := le_of_mem_octet hwide hmem
        rw [hbyte h] at hle
        omega
      · rintro rfl
        omega
  induction cs with
  | nil => simp
  | cons d cs ih => simp only [octets_cons, List.mem_append, hone d, ih, List.mem_cons]

end TelemetryGateway.Text
