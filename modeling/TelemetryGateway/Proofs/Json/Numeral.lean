import Mathlib
import TelemetryGateway.Json.Reader
import TelemetryGateway.Json.Value
import TelemetryGateway.Proofs.Text.Integer
import TelemetryGateway.Proofs.Text.Octets

/-!
# Numbers as they are written and read

A number in a text is an optional sign, digits of which a zero stands alone, an optional point with digits behind it
and an optional exponent. The reader of numbers takes every byte of such a text and could stop behind the last one;
what is written for an integer or a binary fraction is such a text.

## Main definitions

- `Numeral.Spelled`: the texts of a number
- `Partial.run`: a number after several bytes
- `Numeral.ofInt`: the numeral of an integer

## Main statements

- `Numeral.Body.run`: a text of a number is read as the number
- `spelled_int`: the text of an integer
- `exists_spelled_single`, `exists_spelled_double`: the text of a binary fraction
- `Numeral.int?_ofInt`: the value of the numeral of an integer
-/

namespace TelemetryGateway.Json

open TelemetryGateway.Number
open TelemetryGateway.Text

/-! ## The grammar -/

/-- Digits that a number may begin with: a zero stands alone. -/
def Leads (ds : List Char) : Prop :=
  ∃ c cs, ds = c :: cs ∧ (∀ d ∈ ds, d.isDigit = true) ∧ (c = '0' → cs = [])

/-- The characters of a point and the digits behind it, if there is one. -/
inductive SpellsPlaces : List Char → Option (List Char) → Prop
  | absent : SpellsPlaces [] none
  | pointed {ds : List Char} (hne : ds ≠ []) (hdigits : ∀ d ∈ ds, d.isDigit = true) : SpellsPlaces ('.' :: ds) (some ds)

/-- The characters of an exponent with its mark and its sign, if there is one. -/
inductive SpellsExponent : List Char → Option Int → Prop
  | absent : SpellsExponent [] none
  | raised {mark : Char} {sign ds : List Char} (hmark : mark = 'e' ∨ mark = 'E') (hsign : sign = [] ∨ sign = ['+'])
      (hne : ds ≠ []) (hdigits : ∀ d ∈ ds, d.isDigit = true) :
      SpellsExponent (mark :: (sign ++ ds)) (some (Real.valueOf ds : Int))
  | lowered {mark : Char} {ds : List Char} (hmark : mark = 'e' ∨ mark = 'E') (hne : ds ≠ [])
      (hdigits : ∀ d ∈ ds, d.isDigit = true) :
      SpellsExponent (mark :: '-' :: ds) (some (-(Real.valueOf ds : Int)))

/-- The characters of a number without its sign. -/
structure Numeral.Body (n : Numeral) (cs : List Char) : Prop where
  leads : Leads n.whole
  parts : ∃ places exponent, cs = n.whole ++ (places ++ exponent) ∧ SpellsPlaces places n.places ∧
    SpellsExponent exponent n.exponent

/-- The texts of a number. -/
def Numeral.Spelled (n : Numeral) (cs : List Char) : Prop :=
  ∃ body, cs = (if n.negative then '-' :: body else body) ∧ n.Body body

/-! ## Reading -/

namespace Partial

/-- The number after several bytes, as long as they can be part of it. -/
def run (n : Partial) (bs : List UInt8) : Option Partial :=
  bs.foldlM step? n

theorem run_append {n p : Partial} {bs : List UInt8} (h : n.run bs = some p) (cs : List UInt8) :
    n.run (bs ++ cs) = p.run cs := by
  simp only [run] at h ⊢
  rw [List.foldlM_append, h]
  rfl

theorem run_cons {n p : Partial} {b : UInt8} (h : n.step? b = some p) (bs : List UInt8) :
    n.run (b :: bs) = p.run bs := by
  simp only [run, List.foldlM_cons, h]
  rfl

/-- A character is one byte that the number takes. -/
theorem run_char {n p : Partial} {c : Char} (hc : c.toNat < 128) (h : n.step? (UInt8.ofNat c.toNat) = some p)
    (cs : List Char) : n.run (octets (c :: cs)) = p.run (octets cs) := by
  rw [octets_cons_ascii hc, run_cons h]

/-! ### Digits -/

/-- A digit is one byte. -/
theorem toNat_lt_of_isDigit {c : Char} (h : c.isDigit = true) : c.toNat < 128 := by
  have hbounds := (isDigit_iff c).1 h
  omega

theorem toNat_digit {c : Char} (h : c.isDigit = true) : (UInt8.ofNat c.toNat).toNat = c.toNat := by
  have hbounds := (isDigit_iff c).1 h
  rw [UInt8.toNat_ofNat', Nat.mod_eq_of_lt (by omega)]

theorem isDigitByte_digit {c : Char} (h : c.isDigit = true) :
    isDigitByte (UInt8.ofNat c.toNat) = true := by
  have hbounds := (isDigit_iff c).1 h
  simp only [isDigitByte, Bool.and_eq_true, decide_eq_true_eq, UInt8.le_iff_toNat_le, toNat_digit h]
  exact hbounds

theorem digit_bne {c : Char} (h : c.isDigit = true) {b : UInt8} (hb : isDigitByte b = false) :
    (UInt8.ofNat c.toNat == b) = false := by
  apply beq_false_of_ne
  rintro rfl
  rw [isDigitByte_digit h] at hb
  cases hb

theorem charOf_digit {c : Char} (h : c.isDigit = true) : charOf (UInt8.ofNat c.toNat) = c := by
  rw [charOf, toNat_digit h, Char.ofNat_toNat]

/-- Digits that leave a number at its part go in front of those read there, which are in reverse order. -/
theorem run_digits (get : Partial → List Char) (set : List Char → Partial → Partial) {part : NumberPart}
    (hstep : ∀ n c, n.part = part → c.isDigit = true → n.step? (UInt8.ofNat c.toNat) = some (set (c :: get n) n))
    {n : Partial} (hpart : n.part = part) {ds : List Char} (hdigits : ∀ d ∈ ds, d.isDigit = true)
    (hget : ∀ ds n, get (set ds n) = ds) (hset : ∀ ds es n, set ds (set es n) = set ds n)
    (hself : ∀ n, set (get n) n = n) (hkeep : ∀ ds n, (set ds n).part = n.part) :
    n.run (octets ds) = some (set (ds.reverse ++ get n) n) := by
  induction ds generalizing n with
  | nil => rw [List.reverse_nil, List.nil_append, hself, octets_nil]; rfl
  | cons d ds ih =>
    have hd := hdigits d List.mem_cons_self
    rw [run_char (toNat_lt_of_isDigit hd) (hstep n d hpart hd),
      ih ((hkeep _ n).trans hpart) fun x hx => hdigits x (List.mem_cons_of_mem _ hx), hget, hset]
    simp

theorem step?_whole (n : Partial) (c : Char) (hpart : n.part = .whole) (hc : c.isDigit = true) :
    n.step? (UInt8.ofNat c.toNat) = some { n with whole := c :: n.whole } := by
  simp only [step?, hpart, isDigitByte_digit hc, charOf_digit hc, if_true]

theorem step?_places (n : Partial) (c : Char) (hpart : n.part = .places) (hc : c.isDigit = true) :
    n.step? (UInt8.ofNat c.toNat) = some { n with places := c :: n.places } := by
  simp only [step?, hpart, isDigitByte_digit hc, charOf_digit hc, if_true]

theorem step?_exponent (n : Partial) (c : Char) (hpart : n.part = .exponent) (hc : c.isDigit = true) :
    n.step? (UInt8.ofNat c.toNat) = some { n with exponent := c :: n.exponent } := by
  simp only [step?, hpart, isDigitByte_digit hc, charOf_digit hc, if_true]

/-- The first digits of a number. -/
theorem run_leads {n : Partial} (hpart : n.part = .minus) {ds : List Char} (h : Leads ds) :
    n.run (octets ds) =
      some { n with part := if ds = ['0'] then .zero else .whole, whole := ds.reverse } := by
  obtain ⟨c, cs, rfl, hdigits, hzero⟩ := h
  have hc := hdigits c List.mem_cons_self
  by_cases hfirst : c = '0'
  -- A zero is the only digit
  · have hstep : n.step? (UInt8.ofNat '0'.toNat) = some { n with part := .zero, whole := ['0'] } := by
      simp only [step?, hpart]
      rfl
    rw [hzero hfirst, hfirst, run_char (by decide) hstep]
    rfl
  -- Any other digit may be followed by more
  · have hbyte : (UInt8.ofNat c.toNat == 0x30) = false := by
      apply beq_false_of_ne
      intro heq
      have htoNat : c.toNat = 48 := by
        rw [← toNat_digit hc, heq]
        rfl
      exact hfirst (Char.toNat_inj.1 htoNat)
    have hstep : n.step? (UInt8.ofNat c.toNat) = some { n with part := .whole, whole := [c] } := by
      simp only [step?, hpart, isDigitByte_digit hc, charOf_digit hc, hbyte, if_true]
      rfl
    have hne : ¬ (c :: cs) = ['0'] := by
      intro heq
      exact hfirst (List.cons.inj heq).1
    have hrest := run_digits whole (fun ds n => { n with whole := ds }) step?_whole
      (n := { n with part := .whole, whole := [c] }) rfl (fun d hd => hdigits d (List.mem_cons_of_mem _ hd))
      (fun _ _ => rfl) (fun _ _ _ => rfl) (fun _ => rfl) fun _ _ => rfl
    rw [run_char (toNat_lt_of_isDigit hc) hstep, hrest, if_neg hne]
    simp

/-- A point and the digits behind it. -/
theorem run_places {n : Partial} (hpart : n.part = .zero ∨ n.part = .whole) {ds : List Char} (hne : ds ≠ [])
    (hdigits : ∀ d ∈ ds, d.isDigit = true) :
    n.run (octets ('.' :: ds)) = some { n with part := .places, places := ds.reverse } := by
  obtain ⟨d, ds, rfl⟩ := List.exists_cons_of_ne_nil hne
  have hd := hdigits d List.mem_cons_self
  have hpoint : n.step? (UInt8.ofNat '.'.toNat) = some { n with part := .point } := by
    rcases hpart with hpart | hpart <;> simp only [step?, hpart] <;> rfl
  have hfirst : ({ n with part := .point } : Partial).step? (UInt8.ofNat d.toNat) =
      some { n with part := .places, places := [d] } := by
    simp only [step?, isDigitByte_digit hd, charOf_digit hd, if_true]
  have hrest := run_digits places (fun ds n => { n with places := ds }) step?_places
    (n := { n with part := .places, places := [d] }) rfl (fun x hx => hdigits x (List.mem_cons_of_mem _ hx))
    (fun _ _ => rfl) (fun _ _ _ => rfl) (fun _ => rfl) fun _ _ => rfl
  rw [run_char (by decide) hpoint, run_char (toNat_lt_of_isDigit hd) hfirst, hrest]
  simp

/-- The digits of an exponent, behind its mark and its sign. -/
theorem run_exponent {n : Partial} (hpart : n.part = .exponentMark ∨ n.part = .exponentSign) {ds : List Char}
    (hne : ds ≠ []) (hdigits : ∀ d ∈ ds, d.isDigit = true) :
    n.run (octets ds) = some { n with part := .exponent, exponent := ds.reverse } := by
  obtain ⟨d, ds, rfl⟩ := List.exists_cons_of_ne_nil hne
  have hd := hdigits d List.mem_cons_self
  have hplus : (UInt8.ofNat d.toNat == 0x2B) = false := digit_bne hd rfl
  have hminus : (UInt8.ofNat d.toNat == 0x2D) = false := digit_bne hd rfl
  have hfirst : n.step? (UInt8.ofNat d.toNat) = some { n with part := .exponent, exponent := [d] } := by
    rcases hpart with hpart | hpart <;>
      simp only [step?, hpart, isDigitByte_digit hd, charOf_digit hd, if_true, hplus, hminus, Bool.false_eq_true,
        if_false]
  have hrest := run_digits exponent (fun ds n => { n with exponent := ds }) step?_exponent
    (n := { n with part := .exponent, exponent := [d] }) rfl (fun x hx => hdigits x (List.mem_cons_of_mem _ hx))
    (fun _ _ => rfl) (fun _ _ _ => rfl) (fun _ => rfl) fun _ _ => rfl
  rw [run_char (toNat_lt_of_isDigit hd) hfirst, hrest]
  simp

end Partial

/-- A point and the digits behind it, if there is one. -/
theorem SpellsPlaces.run {cs : List Char} {places : Option (List Char)} (h : SpellsPlaces cs places) {n : Partial}
    (hpart : n.part = .zero ∨ n.part = .whole) (hnone : n.places = []) :
    ∃ p : Partial, n.run (octets cs) = some p ∧ (p.part = .zero ∨ p.part = .whole ∨ p.part = .places) ∧
      p.exponent = n.exponent ∧ p.lowered = n.lowered ∧ p.numeral = { n.numeral with places := places } := by
  cases h with
  | absent => exact ⟨n, rfl, by tauto, rfl, rfl, by simp [Partial.numeral, hnone]⟩
  | pointed hne hdigits =>
    exact ⟨_, Partial.run_places hpart hne hdigits, .inr (.inr rfl), rfl, rfl, by simp [Partial.numeral, hne]⟩

/-- An exponent, if there is one. Behind it the number may end. -/
theorem SpellsExponent.run {cs : List Char} {exponent : Option Int} (h : SpellsExponent cs exponent) {n : Partial}
    (hpart : n.part = .zero ∨ n.part = .whole ∨ n.part = .places) (hnone : n.exponent = [])
    (hlowered : n.lowered = false) :
    ∃ p : Partial, n.run (octets cs) = some p ∧ p.acceptable = true ∧
      p.numeral = { n.numeral with exponent := exponent } := by
  have hmarked {mark : Char} (hmark : mark = 'e' ∨ mark = 'E') (cs : List Char) :
      n.run (octets (mark :: cs)) = ({ n with part := .exponentMark } : Partial).run (octets cs) := by
    apply Partial.run_char
    · rcases hmark with rfl | rfl <;> decide
    · rcases hpart with hpart | hpart | hpart <;> rcases hmark with rfl | rfl <;>
        simp only [Partial.step?, hpart] <;> rfl
  cases h with
  | absent =>
    refine ⟨n, rfl, ?_, by simp [Partial.numeral, hnone]⟩
    rcases hpart with hpart | hpart | hpart <;> simp only [Partial.acceptable, hpart]
  | @raised mark sign ds hmark hsign hne hdigits =>
    rcases hsign with rfl | rfl
    · refine ⟨_, (hmarked hmark _).trans (Partial.run_exponent (.inl rfl) hne hdigits), rfl, ?_⟩
      simp [Partial.numeral, hne, hlowered]
    · have hstep : ({ n with part := .exponentMark } : Partial).step? (UInt8.ofNat '+'.toNat) =
          some { n with part := .exponentSign } := rfl
      refine ⟨_, (hmarked hmark _).trans ((Partial.run_char (by decide) hstep _).trans
        (Partial.run_exponent (.inr rfl) hne hdigits)), rfl, ?_⟩
      simp [Partial.numeral, hne, hlowered]
  | @lowered mark ds hmark hne hdigits =>
    have hstep : ({ n with part := .exponentMark } : Partial).step? (UInt8.ofNat '-'.toNat) =
        some { n with part := .exponentSign, lowered := true } := rfl
    refine ⟨_, (hmarked hmark _).trans ((Partial.run_char (by decide) hstep _).trans
      (Partial.run_exponent (.inr rfl) hne hdigits)), rfl, ?_⟩
    simp [Partial.numeral, hne]

/-- A number is read from its first digit to its last, and could end there. -/
theorem Numeral.Body.run {n : Numeral} {cs : List Char} (h : n.Body cs) :
    ∃ p : Partial, ({ Partial.start with negative := n.negative } : Partial).run (octets cs) = some p ∧
      p.acceptable = true ∧ p.numeral = n := by
  obtain ⟨hleads, places, exponent, rfl, hplaces, hexponent⟩ := h
  have hwhole := Partial.run_leads (n := { Partial.start with negative := n.negative }) rfl hleads
  obtain ⟨p, hrun, hpart, hnone, hlowered, hnumeral⟩ := hplaces.run
    (n := { Partial.start with
      negative := n.negative, part := if n.whole = ['0'] then .zero else .whole, whole := n.whole.reverse })
    (by split <;> simp) rfl
  obtain ⟨q, hrun', hacceptable, hnumeral'⟩ := hexponent.run hpart hnone hlowered
  refine ⟨q, ?_, hacceptable, ?_⟩
  · rw [octets_append, octets_append, Partial.run_append hwhole, Partial.run_append hrun, hrun']
  · rw [hnumeral', hnumeral]
    simp [Partial.numeral, Partial.start]

/-! ## Decimal digits -/

theorem isDigit_digitsOf {n : Nat} {d : Char} (h : d ∈ digitsOf n) : d.isDigit = true :=
  Nat.isDigit_of_mem_toDigits (by decide) (by decide) h

theorem digitChar_eq_zero : ∀ n < 10, Nat.digitChar n = '0' → n = 0 := by
  decide

/-- No number but zero begins with a zero. -/
theorem digitsOf_eq_cons (n : Nat) : ∃ c cs, digitsOf n = c :: cs ∧ (c = '0' → n = 0) := by
  induction n using Nat.strongRecOn with
  | ind n ih =>
    rcases Nat.lt_or_ge n 10 with hsmall | hlarge
    · exact ⟨n.digitChar, [], Nat.toDigits_of_lt_base hsmall, digitChar_eq_zero n hsmall⟩
    -- The first digit is that of the quotient, which is not zero either
    · have hdigits : digitsOf n = digitsOf (n / 10) ++ [(n % 10).digitChar] :=
        Nat.toDigits_of_base_le (by decide) hlarge
      obtain ⟨c, cs, hfront, hzero⟩ := ih (n / 10) (by omega)
      refine ⟨c, cs ++ [(n % 10).digitChar], by rw [hdigits, hfront]; rfl, fun hc => ?_⟩
      have hquotient := hzero hc
      omega

theorem digitsOf_ne_nil (n : Nat) : digitsOf n ≠ [] := Nat.toDigits_ne_nil

/-- A number may begin with the digits of a natural number, and zeros may follow those unless the number
is zero. -/
theorem leads_digitsOf_append (n : Nat) {zs : List Char} (hzs : ∀ d ∈ zs, d = '0') (hn : n = 0 → zs = []) :
    Leads (digitsOf n ++ zs) := by
  obtain ⟨c, cs, hdigits, hzero⟩ := digitsOf_eq_cons n
  refine ⟨c, cs ++ zs, by rw [hdigits]; rfl, fun d hd => ?_, fun hc => ?_⟩
  · rcases List.mem_append.1 hd with hd | hd
    · exact isDigit_digitsOf hd
    · rw [hzs d hd]
      rfl
  · have hn' := hzero hc
    have hcs : cs = [] := by
      rw [hn', digitsOf, Nat.toDigits_zero] at hdigits
      exact (List.cons.inj hdigits).2.symm
    rw [hcs, hn hn']
    rfl

theorem leads_digitsOf (n : Nat) : Leads (digitsOf n) := by
  rw [← List.append_nil (digitsOf n)]
  exact leads_digitsOf_append n (by simp) fun _ => rfl

theorem Leads.take {ds : List Char} (h : Leads ds) {k : Nat} (hk : 0 < k) : Leads (ds.take k) := by
  obtain ⟨c, cs, rfl, hdigits, hzero⟩ := h
  cases k with
  | zero => omega
  | succ k =>
    refine ⟨c, cs.take k, rfl, fun d hd => hdigits d (List.mem_of_mem_take hd), fun hc => ?_⟩
    rw [hzero hc, List.take_nil]

/-! ## Binary fractions -/

theorem leads_plain {d : Decimal} (h : 0 ≤ d.exponent) : Leads d.plain := by
  obtain ⟨digits, exponent⟩ := d
  cases exponent with
  | negSucc n => exact absurd h (by simp)
  | ofNat n =>
    simp only [Decimal.plain]
    split
    -- Zero has one digit, whatever its exponent
    · exact ⟨'0', [], rfl, by simp, fun _ => rfl⟩
    · next hne =>
      exact leads_digitsOf_append digits (fun d hd => List.eq_of_mem_replicate hd)
        fun hzero => absurd hzero hne

/-- A decimal with places shows them behind a point. -/
theorem plain_eq_pointed {d : Decimal} (h : d.exponent < 0) : ∃ ws ps, d.plain = ws ++ '.' :: ps ∧
    Leads ws ∧ ps ≠ [] ∧ ∀ c ∈ ps, c.isDigit = true := by
  obtain ⟨digits, exponent⟩ := d
  cases exponent with
  | ofNat n => exact absurd h (by simp)
  | negSucc n =>
    simp only [Decimal.plain]
    split
    -- Fewer digits than places: a zero stands before the point
    · next hshort =>
      refine ⟨['0'], zeros (n + 1 - (digitsOf digits).length) ++ digitsOf digits, rfl,
        ⟨'0', [], rfl, by simp, fun _ => rfl⟩, by simp [digitsOf_ne_nil], fun c hc => ?_⟩
      rcases List.mem_append.1 hc with hc | hc
      · rw [List.eq_of_mem_replicate hc]
        rfl
      · exact isDigit_digitsOf hc
    -- The first digits stand before the point, and at least one of them does
    · next hlong =>
      refine ⟨_, _, rfl, (leads_digitsOf digits).take (by omega), ?_,
        fun c hc => isDigit_digitsOf (List.mem_of_mem_drop hc)⟩
      rw [Ne, List.drop_eq_nil_iff]
      omega

/-- An exponent with its mark, its sign and its digits. -/
theorem exists_spellsExponent (e : Int) : ∃ v, SpellsExponent ('e' :: Layout.exponent e) v := by
  have hne : (if (digitsOf e.natAbs).length < 2 then '0' :: digitsOf e.natAbs else digitsOf e.natAbs) ≠ [] := by
    split
    · exact List.cons_ne_nil _ _
    · exact digitsOf_ne_nil _
  have hdigits : ∀ d ∈ if (digitsOf e.natAbs).length < 2 then '0' :: digitsOf e.natAbs else digitsOf e.natAbs,
      d.isDigit = true := by
    intro d hd
    split at hd
    · rcases List.mem_cons.1 hd with rfl | hd
      · rfl
      · exact isDigit_digitsOf hd
    · exact isDigit_digitsOf hd
  simp only [Layout.exponent]
  by_cases hneg : e < 0
  · rw [if_pos hneg]
    exact ⟨_, .lowered (.inl rfl) hne hdigits⟩
  · rw [if_neg hneg]
    exact ⟨_, .raised (.inl rfl) (.inr rfl) hne hdigits⟩

/-- Whatever the layout, a decimal is written as a number. -/
theorem exists_body_write (l : Layout) (d : Decimal) :
    ∃ whole places exponent, ∀ negative, Numeral.Body ⟨negative, whole, places, exponent⟩ (l.write d) := by
  simp only [Layout.write]
  split
  -- Written out, with a point in any case
  · split
    · next hnonneg =>
      exact ⟨d.plain, some ['0'], none, fun _ => ⟨leads_plain hnonneg, ['.', '0'], [], rfl,
        .pointed (List.cons_ne_nil '0' []) (by simp), .absent⟩⟩
    · next hneg =>
      obtain ⟨ws, ps, hplain, hws, hne, hdigits⟩ := plain_eq_pointed (Int.not_le.1 hneg)
      rw [hplain]
      exact ⟨ws, some ps, none, fun _ => ⟨hws, '.' :: ps, [], by rw [List.append_nil], .pointed hne hdigits, .absent⟩⟩
  -- One digit, a point if there are more, and an exponent
  · obtain ⟨v, hexponent⟩ := exists_spellsExponent (d.exponent + (digitsOf d.digits).length - 1)
    have hisDigit (x : Char) (hx : x ∈ digitsOf d.digits) : x.isDigit = true := isDigit_digitsOf hx
    obtain ⟨c, cs, hdigits, -⟩ := digitsOf_eq_cons d.digits
    have hleads : Leads [c] := ⟨c, [], rfl, fun x hx => hisDigit x (by simp_all), fun _ => rfl⟩
    rw [hdigits] at hexponent hisDigit ⊢
    cases cs with
    | nil => exact ⟨[c], none, v, fun _ => ⟨hleads, [], _, rfl, .absent, hexponent⟩⟩
    | cons c' cs =>
      have hplaces : SpellsPlaces ('.' :: c' :: cs) (some (c' :: cs)) :=
        .pointed (List.cons_ne_nil c' cs) fun x hx => hisDigit x (List.mem_cons_of_mem _ hx)
      exact ⟨[c], some (c' :: cs), v, fun _ => ⟨hleads, '.' :: c' :: cs, _, rfl, hplaces, hexponent⟩⟩

/-- A decimal with a sign is written as a number. -/
theorem exists_spelled_write (negative : Bool) (l : Layout) (d : Decimal) :
    ∃ n : Numeral, n.Spelled (if negative then '-' :: l.write d else l.write d) := by
  obtain ⟨whole, places, exponent, hbody⟩ := exists_body_write l d
  exact ⟨⟨negative, whole, places, exponent⟩, l.write d, rfl, hbody negative⟩

/-- The text of a single-precision number is that of a numeral. -/
theorem exists_spelled_single (x : Single) : ∃ n : Numeral, n.Spelled x.json.toList := by
  rw [Single.json, String.toList_ofList]
  exact exists_spelled_write x.negative _ _

/-- The text of a double-precision number is that of a numeral. -/
theorem exists_spelled_double (bits : UInt64) : ∃ n : Numeral, n.Spelled (Real.json bits).toList := by
  rw [Real.json, String.toList_ofList]
  exact exists_spelled_write (Real.negative bits) _ _

/-! ## Integers -/

/-- The numeral of an integer. -/
def Numeral.ofInt (n : Int) : Numeral := ⟨n < 0, digitsOf n.natAbs, none, none⟩

theorem toList_toString (n : Int) :
    (toString n).toList =
      if decide (n < 0) then '-' :: digitsOf n.natAbs else digitsOf n.natAbs := by
  rw [Int.toString_eq_repr, Int.repr_eq_if]
  by_cases hneg : n < 0
  · have habs : (-n).toNat = n.natAbs := by omega
    simp [hneg, Int.not_le.2 hneg, habs, digitsOf]
  · have habs : n.toNat = n.natAbs := by omega
    simp [hneg, Int.not_lt.1 hneg, habs, digitsOf]

/-- The text of an integer is that of its numeral. -/
theorem spelled_int (n : Int) : (Numeral.ofInt n).Spelled (toString n).toList := by
  have hbody : (Numeral.ofInt n).Body (digitsOf n.natAbs) :=
    ⟨leads_digitsOf n.natAbs, [], [], by simp [Numeral.ofInt], .absent, .absent⟩
  exact ⟨_, toList_toString n, hbody⟩

theorem valueOf_digitsOf (n : Nat) : Real.valueOf (digitsOf n) = n := by
  have h : Nat.ofDigitChars 10 (digitsOf n) 0 = n := Nat.ofDigitChars_ten_toDigits
  rw [Nat.ofDigitChars_eq_foldl] at h
  simpa [Real.valueOf, Nat.mul_comm] using h

/-- The numeral of an integer writes it. -/
theorem Numeral.written?_ofInt (n : Int) : (Numeral.ofInt n).written? = some n := by
  simp only [Numeral.written?, Numeral.ofInt, valueOf_digitsOf]
  by_cases hneg : n < 0
  · have hne : n.natAbs ≠ 0 := by omega
    have habs : -(n.natAbs : Int) = n := by omega
    simp only [hneg, decide_true, if_true, if_neg hne, habs]
  · have habs : (n.natAbs : Int) = n := by omega
    simp only [hneg, decide_false, Bool.false_eq_true, if_false, habs]

/-- The value of the numeral of an integer. -/
theorem Numeral.int?_ofInt {n : Int} (hmin : Integer.minInt64 ≤ n) (hmax : n ≤ Integer.maxUInt64) :
    (Numeral.ofInt n).int? = some n := by
  simp [Numeral.int?, Numeral.written?_ofInt, hmin, hmax]

end TelemetryGateway.Json
