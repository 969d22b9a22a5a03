import Mathlib
import TelemetryGateway.Text.Integer

/-!
# Which texts are integers

## Main definitions

- `Digits`: a run of digits and its value
- `Unsigned`, `Signed`: a run behind an optional sign, and what it denotes

## Main statements

- `isDigit_iff`: the digits among the characters
- `digits?_eq_some_iff`: a run of digits is a non-empty list of digits, read in base ten
- `digits?_toString`: the text of a number reads back
- `eq_zero_of_digits?`: the only run that spells zero and does not begin with an idle one
- `unsigned?_eq_some_iff`, `signed?_eq_some_iff`: the texts of integers between two bounds
-/

namespace TelemetryGateway.Text

theorem isDigit_iff (c : Char) : c.isDigit = true ↔ 48 ≤ c.toNat ∧ c.toNat ≤ 57 := by
  simp only [Char.isDigit, Bool.and_eq_true, decide_eq_true_eq, ge_iff_le, UInt32.le_iff_toNat_le]
  rfl

namespace Integer

theorem digit?_eq_some_iff {c : Char} {n : Nat} : digit? c = some n ↔ c.isDigit = true ∧ n = c.toNat - 48 := by
  simp only [digit?, isDigit_iff, Option.ite_none_right_eq_some, Option.some.injEq]
  exact and_congr_right fun _ => eq_comm

/-- The digits after a value, read in base ten. -/
theorem digitsFrom?_eq_some_iff {acc n : Nat} {cs : List Char} :
    digitsFrom? acc cs = some n ↔ (∀ c ∈ cs, c.isDigit = true) ∧ n = Nat.ofDigitChars 10 cs acc := by
  induction cs generalizing acc with
  | nil => simpa [digitsFrom?, Nat.ofDigitChars] using eq_comm
  | cons c cs ih =>
    simp only [digitsFrom?, Option.bind_eq_some_iff, digit?_eq_some_iff, ih, List.forall_mem_cons,
      Nat.ofDigitChars_cons, Nat.mul_comm 10 acc]
    constructor
    · rintro ⟨_, ⟨hc, rfl⟩, hcs, rfl⟩
      exact ⟨⟨hc, hcs⟩, rfl⟩
    · rintro ⟨⟨hc, hcs⟩, rfl⟩
      exact ⟨_, ⟨hc, rfl⟩, hcs, rfl⟩

theorem digits?_eq_some_iff {n : Nat} {cs : List Char} :
    digits? cs = some n ↔ cs ≠ [] ∧ (∀ c ∈ cs, c.isDigit = true) ∧ n = Nat.ofDigitChars 10 cs 0 := by
  cases cs with
  | nil => simp [digits?]
  | cons c cs => simp [digits?, digitsFrom?_eq_some_iff]

/-- The text of a number reads back. -/
theorem digits?_toString (n : Nat) : digits? (toString n).toList = some n := by
  rw [digits?_eq_some_iff, Nat.toString_eq_repr, Nat.toList_repr]
  exact ⟨Nat.toDigits_ne_nil, fun c hc => Nat.isDigit_of_mem_toDigits (by decide) (by decide) hc,
    Nat.ofDigitChars_ten_toDigits.symm⟩

/-- What stands before the digits counts for at least as much as it did. -/
theorem le_of_digitsFrom? {acc n : Nat} {cs : List Char} (h : digitsFrom? acc cs = some n) : acc ≤ n := by
  induction cs generalizing acc with
  | nil => exact Nat.le_of_eq (Option.some.inj h)
  | cons c cs ih =>
    obtain ⟨d, -, hcs⟩ := Option.bind_eq_some_iff.1 h
    have := ih hcs
    omega

/-- Zero is spelled by a single digit, unless there is an idle one in front. -/
theorem eq_zero_of_digits? {cs : List Char} (h : digits? cs = some 0)
    (hidle : ¬(1 < cs.length ∧ cs.head? = some '0')) : cs = ['0'] := by
  obtain _ | ⟨c, cs⟩ := cs
  · cases h
  obtain ⟨d, hd, hcs⟩ := Option.bind_eq_some_iff.1 h
  have hzero := le_of_digitsFrom? hcs
  obtain ⟨hdigit, rfl⟩ := digit?_eq_some_iff.1 hd
  have hc : c = '0' := by
    have hbounds := (isDigit_iff c).1 hdigit
    exact Char.toNat_inj.1 (show c.toNat = 48 by omega)
  subst hc
  have hlength : cs.length = 0 := by simpa using hidle
  rw [List.length_eq_zero_iff.1 hlength]

/-! ## Signs -/

/-- A run of digits, with its value in base ten. -/
def Digits (ds : List Char) (n : Nat) : Prop :=
  ds ≠ [] ∧ (∀ d ∈ ds, d.isDigit = true) ∧ n = Nat.ofDigitChars 10 ds 0

/-- Digits behind an optional plus sign. -/
inductive Unsigned : List Char → Nat → Prop
  | bare {ds : List Char} {n : Nat} (h : Digits ds n) : Unsigned ds n
  | plus {ds : List Char} {n : Nat} (h : Digits ds n) : Unsigned ('+' :: ds) n

/-- Digits behind an optional sign. -/
inductive Signed : List Char → Int → Prop
  | unsigned {cs : List Char} {n : Nat} (h : Unsigned cs n) : Signed cs n
  | minus {ds : List Char} {n : Nat} (h : Digits ds n) : Signed ('-' :: ds) (-(n : Int))

/-- No run begins with a sign. -/
theorem not_digits_sign {c : Char} (hc : c.isDigit = false) (cs : List Char) (n : Nat) : ¬ Digits (c :: cs) n := by
  rintro ⟨-, hdigits, -⟩
  rw [hdigits c List.mem_cons_self] at hc
  cases hc

theorem unsigned?_eq_some_iff {max n : Nat} {cs : List Char} :
    unsigned? max cs = some n ↔ Unsigned cs n ∧ n ≤ max := by
  simp only [unsigned?, Option.filter_eq_some_iff, decide_eq_true_eq]
  refine and_congr ?_ Iff.rfl
  split <;> rw [digits?_eq_some_iff]
  · next rest =>
    constructor
    · exact .plus
    · rintro (h | h)
      · exact absurd h (not_digits_sign (by decide) rest n)
      · exact h
  · next hplus =>
    constructor
    · exact .bare
    · rintro (h | h)
      · exact h
      · exact absurd rfl (hplus _)

theorem signed?_eq_some_iff {min max n : Int} {cs : List Char} :
    signed? min max cs = some n ↔ Signed cs n ∧ min ≤ n ∧ n ≤ max := by
  simp only [signed?, Option.filter_eq_some_iff, decide_eq_true_eq]
  refine and_congr ?_ Iff.rfl
  split <;> simp only [Option.map_eq_some_iff, digits?_eq_some_iff]
  · next rest =>
    constructor
    · rintro ⟨k, h, rfl⟩
      exact .unsigned (.plus h)
    · rintro ((h | h) | h)
      · exact absurd h (not_digits_sign (by decide) rest _)
      · exact ⟨_, h, rfl⟩
  · next rest =>
    constructor
    · rintro ⟨k, h, rfl⟩
      exact .minus h
    · rintro ((h | h) | h)
      · exact absurd h (not_digits_sign (by decide) rest _)
      · exact ⟨_, h, rfl⟩
  · next hplus hminus =>
    constructor
    · rintro ⟨k, h, rfl⟩
      exact .unsigned (.bare h)
    · rintro ((h | h) | h)
      · exact ⟨_, h, rfl⟩
      · exact absurd rfl (hplus _)
      · exact absurd rfl (hminus _)

/-- A text denotes one integer at most. -/
theorem Signed.unique {cs : List Char} {a b : Int} (h : Signed cs a) (h' : Signed cs b) : a = b := by
  have hread := signed?_eq_some_iff.2 ⟨h, min_le_left a b, le_max_left a b⟩
  rw [signed?_eq_some_iff.2 ⟨h', min_le_right a b, le_max_right a b⟩] at hread
  exact (Option.some.inj hread).symm

/-- The text of a natural number denotes it. -/
theorem unsigned_toString (n : Nat) : Unsigned (toString n).toList n :=
  .bare (digits?_eq_some_iff.1 (digits?_toString n))

/-- The text of an integer denotes it. -/
theorem signed_toString (n : Int) : Signed (toString n).toList n := by
  have hdigits : ∀ k : Nat, Digits k.repr.toList k := fun k => digits?_eq_some_iff.1 (digits?_toString k)
  rw [Int.toString_eq_repr, Int.repr_eq_if]
  split
  · next hnonneg =>
    have hsigned := Signed.unsigned (.bare (hdigits n.toNat))
    rwa [Int.toNat_of_nonneg hnonneg] at hsigned
  · next hneg =>
    have hsigned := Signed.minus (hdigits (-n).toNat)
    rw [Int.toNat_of_nonneg (by omega), Int.neg_neg] at hsigned
    rw [String.toList_append]
    exact hsigned

end Integer

end TelemetryGateway.Text
