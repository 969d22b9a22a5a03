import Mathlib
import TelemetryGateway.Proofs.Json.Grammar
import TelemetryGateway.Proofs.Telemetry.Form.Members
import TelemetryGateway.Proofs.Telemetry.Vocabulary
import TelemetryGateway.Telemetry.Form.Kind

/-!
# Which JSON values are scalars

Terms and integers of sixty-four bits are written in more than one way: as numbers, as texts and, for integers, as
`null`. A number counts if it is the text of an integer, without point and exponent, and is not `-0`. A text counts
for a term if it is a name, character by character, and for an integer if it denotes one between blanks. Nothing else
is read.

## Main definitions

- `IntegerToken`: the texts of integers among those of JSON numbers

## Main statements

- `written?_eq_some_iff`: the numbers that are integers
- `number_eq_ok_iff`: what every kind of integer makes of a number
- `term_eq_ok_iff`, `int64_eq_ok_iff`, `uint64_eq_ok_iff`: what is read, tree by tree
- `scalars_exact`: what is read, text by text
-/

namespace TelemetryGateway.Json

open TelemetryGateway.Number
open TelemetryGateway.Text

/-! ## Integers among numbers -/

/-- The texts of integers: digits behind an optional minus sign. A zero stands alone, also without a sign. -/
inductive IntegerToken : List Char → Int → Prop
  | natural {ds : List Char} {n : Nat} (hleads : Leads ds) (hdigits : Integer.Digits ds n) : IntegerToken ds n
  | negative {ds : List Char} {n : Nat} (hleads : Leads ds) (hdigits : Integer.Digits ds n) (hne : n ≠ 0) :
      IntegerToken ('-' :: ds) (-(n : Int))

/-- No text is that of two numbers, since it is read as either. -/
theorem Numeral.Spelled.unique {m m' : Numeral} {cs : List Char} (h : m.Spelled cs) (h' : m'.Spelled cs) : m = m' := by
  have hread := read_of_spelled (Phrase.Spelled.number h).bare
  rw [read_of_spelled (Phrase.Spelled.number h').bare] at hread
  injection hread with htree
  injection htree with hsame
  exact hsame.symm

/-- A value that is a number has the text of one. -/
theorem Phrase.Spelled.of_number {m : Numeral} {bs : List UInt8} (h : Phrase.Spelled (.value (.number m)) bs) :
    ∃ cs, bs = octets cs ∧ m.Spelled cs := by
  generalize ht : Tree.number m = t at h
  cases h with
  | number hnumber =>
    injection ht with hsame
    exact ⟨_, rfl, hsame ▸ hnumber⟩
  | @string ps => cases hs : Piece.text? ps.reverse <;> simp [hs, Tree.ofText?] at ht
  | _ => cases ht

theorem Leads.digits {ds : List Char} (h : Leads ds) : Integer.Digits ds (Real.valueOf ds) := by
  obtain ⟨c, cs, rfl, hdigits, -⟩ := h
  refine ⟨List.cons_ne_nil c cs, hdigits, ?_⟩
  rw [Nat.ofDigitChars_eq_foldl]
  simp [Real.valueOf, Nat.mul_comm]

theorem Digits.unique {ds : List Char} {n k : Nat} (h : Integer.Digits ds n) (h' : Integer.Digits ds k) : n = k :=
  h.2.2.trans h'.2.2.symm

/-- The text of an integer is that of a number which is written as the integer. -/
theorem IntegerToken.exists_numeral {cs : List Char} {v : Int} (h : IntegerToken cs v) :
    ∃ m : Numeral, m.Spelled cs ∧ m.written? = some v := by
  have hbody {ds : List Char} (negative : Bool) (hleads : Leads ds) :
      Numeral.Body ⟨negative, ds, none, none⟩ ds :=
    ⟨hleads, [], [], by simp, .absent, .absent⟩
  cases h with
  | natural hleads hdigits =>
    refine ⟨⟨false, cs, none, none⟩, ⟨cs, rfl, hbody false hleads⟩, ?_⟩
    simp [Numeral.written?, Digits.unique hleads.digits hdigits]
  | @negative ds n hleads hdigits hne =>
    refine ⟨⟨true, ds, none, none⟩, ⟨ds, rfl, hbody true hleads⟩, ?_⟩
    simp [Numeral.written?, Digits.unique hleads.digits hdigits, hne]

/-- The text of an integer denotes it, also outside JSON. -/
theorem IntegerToken.signed {cs : List Char} {v : Int} (h : IntegerToken cs v) : Integer.Signed cs v := by
  cases h with
  | natural _ hdigits => exact .unsigned (.bare hdigits)
  | negative _ hdigits _ => exact .minus hdigits

/-- Outside JSON it denotes nothing else. -/
theorem IntegerToken.signed_iff {cs : List Char} {v k : Int} (h : IntegerToken cs v) : Integer.Signed cs k ↔ v = k :=
  ⟨h.signed.unique, fun hk => hk ▸ h.signed⟩

/-- It denotes a natural number if it has no sign. -/
theorem IntegerToken.unsigned_iff {cs : List Char} {v : Int} {k : Nat} (h : IntegerToken cs v) :
    Integer.Unsigned cs k ↔ v = k := by
  refine ⟨fun hk => h.signed.unique (.unsigned hk), fun hk => ?_⟩
  cases h with
  | natural _ hdigits =>
    obtain rfl := Int.natCast_inj.1 hk
    exact .bare hdigits
  -- A sign stands before no zero, so the integer is below all natural numbers
  | negative _ _ hne => omega

/-- A number is written as an integer if its text is that of the integer. -/
theorem written?_eq_some_iff {m : Numeral} {cs : List Char} {v : Int} (h : m.Spelled cs) :
    m.written? = some v ↔ IntegerToken cs v := by
  constructor
  · intro hwritten
    obtain ⟨negative, whole, places, exponent⟩ := m
    obtain ⟨body, rfl, hleads, before, behind, rfl, hplaces, hexponent⟩ := h
    simp only at hleads hplaces hexponent
    -- A point or an exponent makes a double, whatever its value is
    cases hplaces with
    | pointed hne hdigits => simp [Numeral.written?] at hwritten
    | absent =>
      cases hexponent with
      | raised hmark hsign hne hdigits => simp [Numeral.written?] at hwritten
      | lowered hmark hne hdigits => simp [Numeral.written?] at hwritten
      | absent =>
        cases negative with
        | false =>
          simp only [Numeral.written?, Bool.false_eq_true, if_false, Option.some.injEq] at hwritten
          subst hwritten
          simpa using IntegerToken.natural hleads hleads.digits
        -- And so does the sign of a zero
        | true =>
          by_cases hzero : Real.valueOf whole = 0
          · simp [Numeral.written?, hzero] at hwritten
          · simp only [Numeral.written?, if_true, if_neg hzero, Option.some.injEq] at hwritten
            subst hwritten
            simpa using IntegerToken.negative hleads hleads.digits hzero
  -- The text is that of some number which is written as the integer, and of no other
  · intro htoken
    obtain ⟨m', hspelled, hwritten⟩ := htoken.exists_numeral
    rw [h.unique hspelled, hwritten]

/-- A value is a number with an integer value if its text is that of the integer. -/
theorem exists_written_iff {t : Tree} {bs : List UInt8} (h : Phrase.Spelled (.value t) bs) {v : Int} :
    (∃ m, t = .number m ∧ m.written? = some v) ↔ ∃ cs, bs = octets cs ∧ IntegerToken cs v := by
  constructor
  · rintro ⟨m, rfl, hwritten⟩
    obtain ⟨cs, rfl, hspelled⟩ := h.of_number
    exact ⟨cs, rfl, (written?_eq_some_iff hspelled).1 hwritten⟩
  · rintro ⟨cs, rfl, htoken⟩
    obtain ⟨m, hspelled, hwritten⟩ := htoken.exists_numeral
    -- What the text is read as does not depend on how it was spelled
    have hread := read_of_spelled h.bare
    rw [read_of_spelled (Phrase.Spelled.number hspelled).bare] at hread
    injection hread with htree
    exact ⟨m, htree.symm, hwritten⟩

theorem int?_eq_some_iff {m : Numeral} {v : Int} :
    m.int? = some v ↔ m.written? = some v ∧ Integer.minInt64 ≤ v ∧ v ≤ Integer.maxUInt64 := by
  simp only [Numeral.int?, Option.filter_eq_some_iff, decide_eq_true_eq]

end TelemetryGateway.Json

namespace TelemetryGateway.Telemetry.Form

open TelemetryGateway.Json
open TelemetryGateway.Text

variable {t : Tree}

/-! ## What is read -/

/-- A number is read within its range as the value that it is written as. -/
theorem number_eq_ok_iff {α : Type} {m : Numeral} (fits : Int → Prop) [DecidablePred fits] (make : Int → α)
    (value : α → Int) (hrange : ∀ x, Integer.minInt64 ≤ value x ∧ value x ≤ Integer.maxUInt64)
    (hfits : ∀ x, fits (value x)) (hmake : ∀ x, make (value x) = x)
    (hvalue : ∀ n, Integer.minInt64 ≤ n → n ≤ Integer.maxUInt64 → fits n → value (make n) = n) {x : α} :
    (match m.int? with
      | some n => if fits n then Except.ok (make n) else .error Fault.form
      | none => .error .form) = .ok x ↔ m.written? = some (value x) := by
  constructor
  · intro h
    split at h
    · next n hint =>
      obtain ⟨hwritten, hmin, hmax⟩ := int?_eq_some_iff.1 hint
      split at h
      · next hn =>
        cases h
        rw [hvalue n hmin hmax hn, hwritten]
      · cases h
    · cases h
  · intro hwritten
    simp only [int?_eq_some_iff.2 ⟨hwritten, hrange x⟩, if_pos (hfits x), hmake]

/-- A term is read from the number of its code and from its name. -/
theorem term_eq_ok_iff {v : Vocabulary} (hlegible : v.Legible) {x : Term v} :
    term v t = .ok x ↔ (∃ m, t = .number m ∧ m.written? = some x.code.toInt) ∨
      ∃ name, t = .string name ∧ x.name? = some name := by
  have hcode (y : Term v) : -0x80000000 ≤ y.code.toInt ∧ y.code.toInt < 0x80000000 :=
    ⟨y.code.le_toInt, y.code.toInt_lt⟩
  cases t with
  | number m =>
    simp only [Tree.number.injEq, exists_eq_left', reduceCtorEq, false_and, exists_false, or_false]
    refine number_eq_ok_iff (fun n => -0x80000000 ≤ n ∧ n < 0x80000000) (fun n => ⟨Int32.ofInt n⟩)
      (fun y : Term v => y.code.toInt) (fun y => ?_) hcode (fun y => by rw [Int32.ofInt_toInt]) fun n _ _ hn => ?_
    · have hy := hcode y
      simp only [Integer.minInt64, Integer.maxUInt64]
      omega
    · exact Int32.toInt_ofInt_of_le (by omega) (by omega)
  | string s =>
    simp only [term, Tree.string.injEq, exists_eq_left', reduceCtorEq, false_and, exists_false, false_or,
      ← Term.ofName?_eq_some_iff hlegible]
    cases Term.ofName? v s <;> simp
  | _ => simp [term]

theorem toInt_bounds (n : Int64) : Integer.minInt64 ≤ n.toInt ∧ n.toInt ≤ Integer.maxInt64 := by
  have hmin := n.le_toInt
  have hmax := n.toInt_lt
  simp only [Integer.minInt64, Integer.maxInt64]
  omega

theorem toInt_ofInt {n : Int} (hmin : Integer.minInt64 ≤ n) (hmax : n ≤ Integer.maxInt64) :
    (Int64.ofInt n).toInt = n := by
  simp only [Integer.minInt64, Integer.maxInt64] at hmin hmax
  exact Int64.toInt_ofInt_of_le (by omega) (by omega)

/-- An integer is read from `null` if it is zero, from a number and from a text with blanks at its ends. -/
theorem int64_eq_ok_iff {n : Int64} :
    int64 t = .ok n ↔ (t = .null ∧ n = 0) ∨ (∃ m, t = .number m ∧ m.written? = some n.toInt) ∨
      ∃ s, t = .string s ∧ Integer.Signed (trimChars s.toList) n.toInt := by
  cases t with
  | null => simp [int64, eq_comm]
  | number m =>
    simp only [Tree.number.injEq, exists_eq_left', reduceCtorEq, false_and, exists_false, or_false, false_or]
    refine number_eq_ok_iff (· ≤ Integer.maxInt64) Int64.ofInt Int64.toInt (fun k => ?_)
      (fun k => (toInt_bounds k).2) Int64.ofInt_toInt fun k hmin _ hmax => toInt_ofInt hmin hmax
    have hk := toInt_bounds k
    simp only [Integer.maxInt64] at hk
    exact ⟨hk.1, by simp only [Integer.maxUInt64]; omega⟩
  | string s =>
    simp only [int64, Tree.string.injEq, exists_eq_left', reduceCtorEq, false_and, exists_false, false_or]
    constructor
    · intro h
      split at h
      · next k hsigned =>
        obtain ⟨hs, hmin, hmax⟩ := Integer.signed?_eq_some_iff.1 hsigned
        cases h
        rwa [toInt_ofInt hmin hmax]
      · cases h
    · intro hs
      rw [Integer.signed?_eq_some_iff.2 ⟨hs, toInt_bounds n⟩]
      simp only [Int64.ofInt_toInt]
  | _ => simp [int64]

theorem toNat_le (n : UInt64) : n.toNat ≤ Integer.maxUInt64 := by
  have hmax := n.toNat_lt
  simp only [Integer.maxUInt64]
  omega

theorem toNat_ofNat {n : Nat} (hmax : n ≤ Integer.maxUInt64) : (UInt64.ofNat n).toNat = n := by
  simp only [Integer.maxUInt64] at hmax
  exact UInt64.toNat_ofNat_of_lt (by simp only [UInt64.size]; omega)

theorem uint64_eq_ok_iff {n : UInt64} :
    uint64 t = .ok n ↔ (t = .null ∧ n = 0) ∨ (∃ m, t = .number m ∧ m.written? = some (n.toNat : Int)) ∨
      ∃ s, t = .string s ∧ Integer.Unsigned (trimChars s.toList) n.toNat := by
  cases t with
  | null => simp [uint64, eq_comm]
  | number m =>
    simp only [Tree.number.injEq, exists_eq_left', reduceCtorEq, false_and, exists_false, or_false, false_or]
    refine number_eq_ok_iff (0 ≤ ·) (fun k => UInt64.ofNat k.toNat) (fun k : UInt64 => (k.toNat : Int)) (fun k => ?_)
      (fun k => Int.natCast_nonneg k.toNat) (fun k => by rw [Int.toNat_natCast, UInt64.ofNat_toNat])
      fun k _ hmax hnonneg => ?_
    · have hk := toNat_le k
      exact ⟨by simp only [Integer.minInt64]; omega, by omega⟩
    · rw [toNat_ofNat (by omega), Int.toNat_of_nonneg hnonneg]
  | string s =>
    simp only [uint64, Tree.string.injEq, exists_eq_left', reduceCtorEq, false_and, exists_false, false_or]
    constructor
    · intro h
      split at h
      · next k hunsigned =>
        obtain ⟨hs, hmax⟩ := Integer.unsigned?_eq_some_iff.1 hunsigned
        cases h
        rwa [toNat_ofNat hmax]
      · cases h
    · intro hs
      rw [Integer.unsigned?_eq_some_iff.2 ⟨hs, toNat_le n⟩]
      simp only [UInt64.ofNat_toNat]
  | _ => simp [uint64]

/-! ## Numbers in quotes -/

/-- No blank stands in the text of an integer. -/
theorem trimChars_signed {cs : List Char} {v : Int} (h : Integer.Signed cs v) : trimChars cs = cs := by
  have hsign : isBlank '+' = false ∧ isBlank '-' = false := by decide
  have hdigits {ds : List Char} {n : Nat} (hds : Integer.Digits ds n) : ∀ c ∈ ds, isBlank c = false := by
    intro c hc
    have hbounds := (isDigit_iff c).1 (hds.2.1 c hc)
    simp only [isBlank, Bool.or_eq_false_iff, Bool.and_eq_false_iff, decide_eq_false_iff_not, beq_eq_false_iff_ne]
    omega
  apply trimChars_of_not_blank
  obtain (h | h) | h := h
  · exact hdigits h
  · exact List.forall_mem_cons.2 ⟨hsign.1, hdigits h⟩
  · exact List.forall_mem_cons.2 ⟨hsign.2, hdigits h⟩

section Quotes

variable {m : Numeral} {cs : List Char} {v : Int}

/-- An integer in quotes is read like the number, or refused like it. -/
theorem int64_quoted (hspelled : m.Spelled cs) (htoken : IntegerToken cs v) :
    (int64 (.number m)).toOption = (int64 (.string (.ofList cs))).toOption := by
  apply Option.ext
  intro n
  have hnumber : m.written? = some n.toInt ↔ Integer.Signed (trimChars cs) n.toInt := by
    rw [(written?_eq_some_iff hspelled).2 htoken, trimChars_signed htoken.signed, htoken.signed_iff, Option.some.injEq]
  simpa [toOption_eq_some_iff, int64_eq_ok_iff] using hnumber

theorem uint64_quoted (hspelled : m.Spelled cs) (htoken : IntegerToken cs v) :
    (uint64 (.number m)).toOption = (uint64 (.string (.ofList cs))).toOption := by
  apply Option.ext
  intro n
  have hnumber : m.written? = some (n.toNat : Int) ↔ Integer.Unsigned (trimChars cs) n.toNat := by
    rw [(written?_eq_some_iff hspelled).2 htoken, trimChars_signed htoken.signed, htoken.unsigned_iff,
      Option.some.injEq]
  simpa [toOption_eq_some_iff, uint64_eq_ok_iff] using hnumber

end Quotes

/-! ## Exactness -/

/-- From every JSON text a scalar is read if, and only if, the text is one of its forms. For a term that is the integer
of its code or the name in its place; for an integer `null`, which says zero, the integer itself or a string that
denotes it between blanks. Integers of sixty-four bits are read alike with and without quotes, from end to end of their
range, and what is beyond it is refused either way. -/
theorem scalars_exact :
    (∀ t bs, Phrase.Spelled (.value t) bs →
      (∀ v ∈ [platforms, networkTypes, logLevels], ∀ x : Term v, term v t = .ok x ↔
        (∃ cs, bs = octets cs ∧ IntegerToken cs x.code.toInt) ∨
          ∃ (i : Nat) (name : String), t = .string name ∧ v.names[i]? = some name ∧ x.code.toInt = i) ∧
      (∀ n : Int64, int64 t = .ok n ↔ (t = .null ∧ n = 0) ∨
        (∃ cs, bs = octets cs ∧ IntegerToken cs n.toInt) ∨
          ∃ s, t = .string s ∧ Integer.Signed (trimChars s.toList) n.toInt) ∧
      (∀ n : UInt64, uint64 t = .ok n ↔ (t = .null ∧ n = 0) ∨
        (∃ cs, bs = octets cs ∧ IntegerToken cs n.toNat) ∨
          ∃ s, t = .string s ∧ Integer.Unsigned (trimChars s.toList) n.toNat)) ∧
    (∀ n : Int64, int64 (.number (.ofInt n.toInt)) = .ok n ∧ int64 (.string (toString n.toInt)) = .ok n) ∧
    (∀ n : UInt64, uint64 (.number (.ofInt n.toNat)) = .ok n ∧ uint64 (.string (toString n.toNat)) = .ok n) ∧
    (∀ m cs v, m.Spelled cs → IntegerToken cs v →
      (int64 (.number m)).toOption = (int64 (.string (.ofList cs))).toOption ∧
      (uint64 (.number m)).toOption = (uint64 (.string (.ofList cs))).toOption) := by
  refine ⟨fun t bs h => ⟨fun v hv x => ?_, fun n => ?_, fun n => ?_⟩, fun n => ⟨?_, ?_⟩, fun n => ⟨?_, ?_⟩,
    fun m cs v hspelled htoken => ⟨int64_quoted hspelled htoken, uint64_quoted hspelled htoken⟩⟩
  · rw [term_eq_ok_iff (legible_of_mem hv), exists_written_iff h]
    simp only [Term.name?_eq_some_iff]
    refine or_congr_right ⟨?_, ?_⟩
    · rintro ⟨name, htree, i, hcode, hplace⟩
      exact ⟨i, name, htree, hplace, hcode⟩
    · rintro ⟨i, name, htree, hplace, hcode⟩
      exact ⟨name, htree, i, hcode, hplace⟩
  · rw [int64_eq_ok_iff, exists_written_iff h]
  · rw [uint64_eq_ok_iff, exists_written_iff h]
  · exact int64_eq_ok_iff.2 (.inr (.inl ⟨_, rfl, Numeral.written?_ofInt _⟩))
  · have hsigned := Integer.signed_toString n.toInt
    exact int64_eq_ok_iff.2 (.inr (.inr ⟨_, rfl, (trimChars_signed hsigned).symm ▸ hsigned⟩))
  · exact uint64_eq_ok_iff.2 (.inr (.inl ⟨_, rfl, Numeral.written?_ofInt _⟩))
  · have hunsigned := Integer.unsigned_toString n.toNat
    exact uint64_eq_ok_iff.2 (.inr (.inr ⟨_, rfl, (trimChars_signed (.unsigned hunsigned)).symm ▸ hunsigned⟩))

/-- A code that has a name, and the least integer, without quotes and with them. -/
theorem scalars_exact_error_least :
    term logLevels (.number (.ofInt 4)) = .ok ⟨4⟩ ∧
      uint64 (.number (.ofInt 4)) = .ok 4 ∧
      int64 (.number (.ofInt Int64.minValue.toInt)) = .ok Int64.minValue ∧
      (int64 (.number (.ofInt Int64.minValue.toInt))).toOption =
        (int64 (.string (toString Int64.minValue.toInt))).toOption ∧
      (uint64 (.number (.ofInt Int64.minValue.toInt))).toOption =
        (uint64 (.string (toString Int64.minValue.toInt))).toOption := by
  obtain ⟨hforms, hleast, -, hquoted⟩ := scalars_exact
  have htoken (v : Int) : IntegerToken (toString v).toList v :=
    (written?_eq_some_iff (spelled_int v)).1 (Numeral.written?_ofInt v)
  obtain ⟨hterm, -, huint64⟩ := hforms _ _ (.number (spelled_int 4))
  have halike := hquoted _ _ _ (spelled_int Int64.minValue.toInt) (htoken _)
  rw [String.ofList_toList] at halike
  refine ⟨?_, ?_, (hleast Int64.minValue).1, halike⟩
  · exact (hterm logLevels (by simp) ⟨4⟩).2 (.inl ⟨_, rfl, htoken 4⟩)
  · exact (huint64 4).2 (.inr (.inl ⟨_, rfl, htoken 4⟩))

end TelemetryGateway.Telemetry.Form
