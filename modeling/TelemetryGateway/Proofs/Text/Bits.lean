import Mathlib

/-!
# Rows of bits

The bits of numbers of one width, written in a row, can be cut into pieces of another width. Bytes have eight bits,
and the digits of a text may have fewer.

## Main definitions

- `bits`: the lowest bits of a number, the highest of them first

## Main statements

- `flatMap_injective`, `exists_flatMap`: rows of pieces that have one length
- `bits_add`: a number cut in two
- `bits_injOn`, `exists_bits`: numbers below a power of two are rows of bits
-/

namespace TelemetryGateway.Text

/-! ## Pieces of one length -/

section Pieces

variable {α β : Type} {f : α → List β} {w : Nat}

theorem length_pieces (hlength : ∀ a, (f a).length = w) (as : List α) : (as.flatMap f).length = w * as.length := by
  simp [List.length_flatMap, hlength, Nat.mul_comm]

/-- A row tells its pieces, if these have one length. -/
theorem flatMap_injective (hpiece : Function.Injective f) (hlength : ∀ a, (f a).length = w) (hpos : 0 < w) :
    Function.Injective (List.flatMap f) := by
  intro as bs h
  -- There are as many pieces as the length of the row says
  have hcount : as.length = bs.length := by
    have hrow := congrArg List.length h
    rw [length_pieces hlength, length_pieces hlength] at hrow
    exact Nat.eq_of_mul_eq_mul_left hpos hrow
  induction as generalizing bs with
  | nil => exact (List.length_eq_zero_iff.1 hcount.symm).symm
  | cons a as ih =>
    cases bs with
    | nil => cases hcount
    | cons b bs =>
      rw [List.flatMap_cons, List.flatMap_cons] at h
      obtain ⟨hhead, htail⟩ := List.append_inj h ((hlength a).trans (hlength b).symm)
      rw [hpiece hhead, ih htail (Nat.succ.inj hcount)]

/-- A row of the right length is made of pieces. -/
theorem exists_flatMap (hpiece : ∀ l : List β, l.length = w → ∃ a, f a = l) {n : Nat} {l : List β}
    (h : l.length = w * n) : ∃ as : List α, as.flatMap f = l := by
  induction n generalizing l with
  | zero => exact ⟨[], (List.length_eq_zero_iff.1 h).symm⟩
  | succ n ih =>
    rw [Nat.mul_succ] at h
    obtain ⟨a, ha⟩ := hpiece (l.take w) (by rw [List.length_take]; omega)
    obtain ⟨as, has⟩ := ih (l := l.drop w) (by rw [List.length_drop]; omega)
    exact ⟨a :: as, by rw [List.flatMap_cons, ha, has, List.take_append_drop]⟩

end Pieces

/-! ## The bits of a number -/

/-- The lowest bits of a number, the highest of them first. -/
def bits (width n : Nat) : List Bool :=
  (List.range width).reverse.map n.testBit

@[simp] theorem length_bits (w n : Nat) : (bits w n).length = w := by
  simp [bits]

/-- The bits of a number are those of its quotient and those of its remainder by a power of two. -/
theorem bits_add (v w n : Nat) : bits (v + w) n = bits v (n / 2 ^ w) ++ bits w n := by
  have hhigh (i : Nat) : (n / 2 ^ w).testBit i = n.testBit (w + i) := by
    rw [Nat.testBit_div_two_pow, Nat.add_comm]
  rw [bits, Nat.add_comm, List.range_add, List.reverse_append, List.map_append, ← List.map_reverse, List.map_map]
  congr 1
  exact List.map_congr_left fun i _ => (hhigh i).symm

@[simp] theorem bits_mod (w n : Nat) : bits w (n % 2 ^ w) = bits w n := by
  apply List.map_congr_left
  intro i hi
  rw [Nat.testBit_mod_two_pow, decide_eq_true (List.mem_range.1 (List.mem_reverse.1 hi)), Bool.true_and]

theorem bits_zero (w : Nat) : bits w 0 = List.replicate w false := by
  simp [bits, List.eq_replicate_iff]

/-- Zero bits behind a number. -/
theorem bits_spare (v w m : Nat) : bits (v + w) (m * 2 ^ w) = bits v m ++ List.replicate w false := by
  have hpos : 0 < 2 ^ w := Nat.two_pow_pos w
  rw [bits_add, ← bits_mod w, Nat.mul_div_cancel _ hpos, Nat.mul_mod_left, bits_zero]

/-- Different numbers below a power of two have different bits. -/
theorem bits_injOn {w m n : Nat} (hm : m < 2 ^ w) (hn : n < 2 ^ w) (h : bits w m = bits w n) : m = n := by
  have heq := List.map_inj_left.1 h
  apply Nat.eq_of_testBit_eq
  intro i
  rcases Nat.lt_or_ge i w with hlt | hge
  · exact heq i (List.mem_reverse.2 (List.mem_range.2 hlt))
  -- Both numbers have no bits from there on
  · have hpow := Nat.pow_le_pow_right (by decide : 0 < 2) hge
    rw [Nat.testBit_lt_two_pow (by omega), Nat.testBit_lt_two_pow (by omega)]

/-- Every row of bits is that of a number. The induction is on the row from its end. -/
theorem exists_bits (l : List Bool) : ∃ n < 2 ^ l.length, bits l.length n = l := by
  induction l using List.reverseRecOn with
  | nil => exact ⟨0, by decide, rfl⟩
  | append_singleton l b ih =>
    obtain ⟨n, hn, hbits⟩ := ih
    have hlow : bits 1 (2 * n + b.toNat) = [b] := by
      cases b <;> simp [bits, Nat.testBit_zero]
    have hhalf : (2 * n + b.toNat) / 2 ^ 1 = n := by
      have hb := b.toNat_lt
      omega
    refine ⟨2 * n + b.toNat, ?_, ?_⟩
    · have hb := b.toNat_lt
      rw [List.length_append, List.length_singleton, Nat.pow_succ]
      omega
    · rw [List.length_append, List.length_singleton, bits_add, hhalf, hbits, hlow]

end TelemetryGateway.Text
