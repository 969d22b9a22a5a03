import Mathlib
import TelemetryGateway.Telemetry.Wire.Varint

/-!
# Variable-length integers read back

A number may be spelled with more groups than it needs, as long as there are no more than ten. All its spellings are
read as the number, whatever follows them, and nothing else is read at all.

## Main definitions

- `Varint.Spells`: the byte strings that stand for a number

## Main statements

- `decode_eq_some_iff`: what is read is a spelling at the front
- `spells_encode`: the bytes that are written are a spelling
-/

namespace TelemetryGateway.Telemetry.Wire.Varint

/-! ## Spellings -/

/-- Groups of seven bits that make up a number, the lowest first; all but the last have a mark. -/
inductive Groups : List UInt8 → Nat → Prop
  | last {b : UInt8} (hlow : b < 128) : Groups [b] b.toNat
  | more {b : UInt8} {bs : List UInt8} {n : Nat} (hhigh : ¬ b < 128) (hrest : Groups bs n) :
      Groups (b :: bs) (b.toNat - 128 + 128 * n)

/-- The byte strings that stand for a number. -/
structure Spells (bs : List UInt8) (n : Nat) : Prop where
  groups : Groups bs n
  length_le : bs.length ≤ 10
  lt : n < 2 ^ 64

theorem Groups.ne_nil {bs : List UInt8} {n : Nat} (h : Groups bs n) : bs ≠ [] := by
  cases h <;> exact List.cons_ne_nil _ _

theorem Spells.ne_nil {bs : List UInt8} {n : Nat} (h : Spells bs n) : bs ≠ [] :=
  h.groups.ne_nil

/-! ## Reading -/

/-- With room for `left + 1` bytes there is room for the last bit of the last one, so the bound doubles a
power of the group size. -/
theorem decodeWithin_of_groups {bs : List UInt8} {n : Nat} (h : Groups bs n) {left : Nat}
    (hlength : bs.length ≤ left + 1) (hn : n < 2 * 128 ^ left) (rest : List UInt8) :
    decodeWithin (left + 1) (bs ++ rest) = some (n, rest) := by
  induction h generalizing left with
  | @last b hlow =>
    -- Where this is the last byte there may be, it has room for a single bit
    have hbit : ¬ (left = 0 ∧ 2 ≤ b) := by
      rintro ⟨rfl, hbad⟩
      rw [UInt8.le_iff_toNat_le] at hbad
      exact absurd hn (Nat.not_lt.2 hbad)
    rw [List.singleton_append, decodeWithin, if_pos hlow, if_neg hbit]
  | @more b bs n hhigh hrest ih =>
    cases left with
    | zero =>
      rw [List.length_cons] at hlength
      exact absurd (List.length_eq_zero_iff.1 (by omega)) hrest.ne_nil
    | succ left =>
      rw [List.length_cons] at hlength
      have hgroups : n < 2 * 128 ^ left := by
        rw [pow_succ] at hn
        omega
      rw [List.cons_append, decodeWithin, if_neg hhigh, ih (by omega) hgroups]

/-- Nothing is read but groups in the room that there is. -/
theorem exists_groups_of_decodeWithin {left : Nat} {bs : List UInt8} {n : Nat} {rest : List UInt8}
    (h : decodeWithin (left + 1) bs = some (n, rest)) :
    ∃ front, bs = front ++ rest ∧ Groups front n ∧ front.length ≤ left + 1 ∧ n < 2 * 128 ^ left := by
  induction left generalizing bs n with
  | zero =>
    cases bs with
    | nil => cases h
    | cons b bs =>
      by_cases hlow : b < 128
      · rw [decodeWithin, if_pos hlow] at h
        split at h
        · cases h
        · next hbit =>
          cases h
          have hlast : b.toNat < 2 := by
            by_contra hbad
            exact hbit ⟨rfl, UInt8.le_iff_toNat_le.2 (Nat.not_lt.1 hbad)⟩
          exact ⟨[b], rfl, .last hlow, le_rfl, hlast⟩
      · rw [decodeWithin, if_neg hlow, decodeWithin] at h
        cases h
  | succ left ih =>
    cases bs with
    | nil => cases h
    | cons b bs =>
      have hsize : b.toNat < 256 := b.toNat_lt
      by_cases hlow : b < 128
      · rw [decodeWithin, if_pos hlow, if_neg fun hbad => Nat.succ_ne_zero left hbad.1] at h
        cases h
        have hroom : 1 ≤ 128 ^ left := Nat.one_le_pow _ _ (by decide)
        have hgroup : b.toNat < 128 := UInt8.lt_iff_toNat_lt.1 hlow
        refine ⟨[b], rfl, .last hlow, by simp, ?_⟩
        rw [pow_succ]
        omega
      · rw [decodeWithin, if_neg hlow] at h
        split at h
        · next m rest' hrest =>
          cases h
          obtain ⟨front, rfl, hgroups, hlength, hm⟩ := ih hrest
          refine ⟨b :: front, rfl, .more hlow hgroups, by simpa using hlength, ?_⟩
          rw [pow_succ]
          omega
        · cases h

/-- Ten bytes, the last of which has room for a single bit, are sixty-four bits. -/
theorem decode_of_spells {bs : List UInt8} {n : Nat} (h : Spells bs n) (rest : List UInt8) :
    decode (bs ++ rest) = some (n, rest) := by
  have hroom : n < 2 * 128 ^ 9 := h.lt.trans_eq (by norm_num)
  exact decodeWithin_of_groups h.groups h.length_le hroom rest

/-- What is read is a spelling at the front. -/
theorem decode_eq_some_iff {bs : List UInt8} {n : Nat} {rest : List UInt8} :
    decode bs = some (n, rest) ↔ ∃ front, bs = front ++ rest ∧ Spells front n := by
  constructor
  · intro h
    obtain ⟨front, hbytes, hgroups, hlength, hn⟩ := exists_groups_of_decodeWithin h
    exact ⟨front, hbytes, hgroups, hlength, hn.trans_eq (by norm_num)⟩
  · rintro ⟨front, rfl, h⟩
    exact decode_of_spells h rest

/-! ## The shortest spelling -/

theorem groups_encode (n : Nat) : Groups (encode n) n := by
  induction n using encode.induct with
  | case1 n hsmall =>
    have hbyte : (UInt8.ofNat n).toNat = n := by rw [UInt8.toNat_ofNat', Nat.mod_eq_of_lt (by omega)]
    have hlow : UInt8.ofNat n < 128 := by
      rw [UInt8.lt_iff_toNat_lt, hbyte]
      exact hsmall
    have hgroups := Groups.last hlow
    rwa [encode, if_pos hsmall, ← hbyte, UInt8.ofNat_toNat]
  | case2 n hlarge ih =>
    have hbyte : (UInt8.ofNat (n % 128 + 128)).toNat = n % 128 + 128 := by
      rw [UInt8.toNat_ofNat', Nat.mod_eq_of_lt (by omega)]
    have hhigh : ¬ UInt8.ofNat (n % 128 + 128) < 128 := by
      rw [UInt8.lt_iff_toNat_lt, hbyte]
      exact Nat.not_lt.2 (Nat.le_add_left _ _)
    have hgroups := Groups.more hhigh ih
    rw [hbyte, Nat.add_sub_cancel, Nat.mod_add_div] at hgroups
    rwa [encode, if_neg hlarge]

theorem length_encode_le {n left : Nat} (h : n < 2 * 128 ^ left) : (encode n).length ≤ left + 1 := by
  induction left generalizing n with
  | zero =>
    rw [encode, if_pos (by omega)]
    exact le_rfl
  | succ left ih =>
    rw [encode]
    split
    · exact Nat.le_add_left 1 _
    · have hgroups : n / 128 < 2 * 128 ^ left := by
        rw [Nat.div_lt_iff_lt_mul (by decide)]
        rwa [pow_succ, ← mul_assoc] at h
      exact Nat.succ_le_succ (ih hgroups)

/-- A number of at most sixty-four bits is written as one of its spellings. -/
theorem spells_encode {n : Nat} (h : n < 2 ^ 64) : Spells (encode n) n where
  groups := groups_encode n
  length_le := length_encode_le (h.trans_eq (by norm_num : 2 ^ 64 = 2 * 128 ^ 9))
  lt := h

theorem encode_ne_nil (n : Nat) : encode n ≠ [] :=
  (groups_encode n).ne_nil

end TelemetryGateway.Telemetry.Wire.Varint
