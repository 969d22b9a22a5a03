import Mathlib
import TelemetryGateway.Proofs.Text.Integer
import TelemetryGateway.Telemetry.Vocabulary

/-!
# The texts of terms

A term is written as its name if it has one, and as the digits of its code otherwise. Names begin with a letter and no
name stands twice, so the text of a term tells which term it is, whatever integer its code is.

## Main definitions

- `Vocabulary.Legible`: what the names of a vocabulary have to be like
- `Term.ofText?`: the term of a text

## Main statements

- `Term.name?_eq_some_iff`, `Term.ofName?_eq_some_iff`: the terms that have a name
- `Term.ofText?_text`, `Term.text_injective`: a term is known by its text
- `Term.text_mem_names_iff`, `Term.text_eq_toString`: which terms are written as names and which as digits
-/

namespace TelemetryGateway.Telemetry

open TelemetryGateway.Text

/-- No name stands twice, every place is a code, and names begin with a letter. -/
structure Vocabulary.Legible (v : Vocabulary) : Prop where
  nodup : v.names.Nodup
  short : v.names.length ≤ 2 ^ 31
  lettered : ∀ name ∈ v.names, name.toList.head?.any Char.isAlpha = true

theorem legible_platforms : platforms.Legible := ⟨by decide, by decide, by decide⟩

theorem legible_networkTypes : networkTypes.Legible := ⟨by decide, by decide, by decide⟩

theorem legible_logLevels : logLevels.Legible := ⟨by decide, by decide, by decide⟩

theorem legible_of_mem {v : Vocabulary} (h : v ∈ [platforms, networkTypes, logLevels]) : v.Legible := by
  simp only [List.mem_cons, List.not_mem_nil, or_false] at h
  obtain rfl | rfl | rfl := h
  exacts [legible_platforms, legible_networkTypes, legible_logLevels]

/-- No integer begins with a letter. -/
theorem not_lettered_of_signed {cs : List Char} {n : Int} (h : Integer.Signed cs n) :
    cs.head?.any Char.isAlpha = false := by
  have hdigit : ∀ d : Char, d.isDigit = true → d.isAlpha = false := by
    intro d hd
    have hbounds := (isDigit_iff d).1 hd
    by_contra halpha
    simp only [Char.isAlpha, Char.isUpper, Char.isLower, Bool.not_eq_false, Bool.or_eq_true, Bool.and_eq_true,
      decide_eq_true_eq, UInt32.le_iff_toNat_le, ge_iff_le] at halpha
    change (65 ≤ d.toNat ∧ d.toNat ≤ 90) ∨ (97 ≤ d.toNat ∧ d.toNat ≤ 122) at halpha
    omega
  have hdigits : ∀ {ds : List Char} {k : Nat}, Integer.Digits ds k → ds.head?.any Char.isAlpha = false := by
    rintro (_ | ⟨d, ds⟩) k ⟨hne, hall, -⟩
    · exact absurd rfl hne
    · exact hdigit d (hall d List.mem_cons_self)
  obtain (h | h) | h := h
  · exact hdigits h
  · rfl
  · rfl

namespace Term

variable {v : Vocabulary}

/-- A term has the name at the place of its code. -/
theorem name?_eq_some_iff {t : Term v} {name : String} :
    t.name? = some name ↔ ∃ i : Nat, t.code.toInt = i ∧ v.names[i]? = some name := by
  simp only [name?]
  split
  · next hnonneg =>
    constructor
    · exact fun h => ⟨t.code.toInt.toNat, by omega, h⟩
    · rintro ⟨i, hcode, h⟩
      rwa [hcode]
  · next hneg =>
    constructor
    · intro h
      cases h
    · rintro ⟨i, hcode, -⟩
      omega

/-- A name is found at its place, since no name stands twice in a vocabulary. -/
theorem ofName?_of_name? (hnodup : v.names.Nodup) {t : Term v} {name : String} (h : t.name? = some name) :
    ofName? v name = some t := by
  obtain ⟨i, hcode, hplace⟩ := name?_eq_some_iff.1 h
  obtain ⟨hlt, hname⟩ := List.getElem?_eq_some_iff.1 hplace
  have hfind : v.names.findIdx? (· == name) = some i := by
    rw [List.findIdx?_eq_some_iff_getElem]
    refine ⟨hlt, beq_iff_eq.2 hname, fun j hj => ?_⟩
    -- An earlier place with the same name would be the same place
    have hne : v.names[j] ≠ name := by
      intro heq
      have hsame := (List.Nodup.getElem_inj_iff hnodup).1 (heq.trans hname.symm)
      omega
    simp [hne]
  have hterm : Int32.ofNat i = t.code := by
    rw [← Int32.ofInt_eq_ofNat, ← hcode, Int32.ofInt_toInt]
  rw [ofName?, hfind, Option.map_some, hterm]

/-- A name is that of the one term that has it. -/
theorem ofName?_eq_some_iff (hlegible : v.Legible) {t : Term v} {name : String} :
    ofName? v name = some t ↔ t.name? = some name := by
  refine ⟨fun h => ?_, ofName?_of_name? hlegible.nodup⟩
  obtain ⟨i, hfind, rfl⟩ := Option.map_eq_some_iff.1 h
  obtain ⟨hlt, hname, -⟩ := List.findIdx?_eq_some_iff_getElem.1 hfind
  have hshort := hlegible.short
  refine name?_eq_some_iff.2 ⟨i, Int32.toInt_ofNat_of_lt (by omega), ?_⟩
  rw [List.getElem?_eq_getElem hlt, beq_iff_eq.1 hname]

/-- The term of a text: that of the name, or that of the code whose digits it is. -/
def ofText? (v : Vocabulary) (text : String) : Option (Term v) :=
  (ofName? v text).or
    ((Integer.signed? (-0x80000000) 0x7FFFFFFF text.toList).map fun code => ⟨Int32.ofInt code⟩)

theorem text_of_name? {t : Term v} {name : String} (h : t.name? = some name) : t.text = name := by
  rw [text, h, Option.getD_some]

theorem text_of_unnamed {t : Term v} (h : t.name? = none) : t.text = toString t.code.toInt := by
  rw [text, h, Option.getD_none]

theorem mem_names_of_name? {t : Term v} {name : String} (h : t.name? = some name) : name ∈ v.names := by
  obtain ⟨i, -, hplace⟩ := name?_eq_some_iff.1 h
  exact List.mem_of_getElem? hplace

/-- What is no name is written in digits. -/
theorem text_eq_toString {t : Term v} (h : t.text ∉ v.names) : t.text = toString t.code.toInt := by
  cases hname : t.name? with
  | some name => exact absurd (mem_names_of_name? hname) (text_of_name? hname ▸ h)
  | none => exact text_of_unnamed hname

/-- The digits of a code are no name. -/
theorem toString_not_mem_names (hlegible : v.Legible) (code : Int) : toString code ∉ v.names := by
  intro h
  have hlettered := hlegible.lettered _ h
  rw [not_lettered_of_signed (Integer.signed_toString code)] at hlettered
  cases hlettered

/-- A term is read back from its text. -/
theorem ofText?_text (hlegible : v.Legible) (t : Term v) : ofText? v t.text = some t := by
  cases hname : t.name? with
  | some name => rw [text_of_name? hname, ofText?, (ofName?_eq_some_iff hlegible).2 hname, Option.some_or]
  | none =>
    have hnone : ofName? v (toString t.code.toInt) = none := by
      cases hfind : ofName? v (toString t.code.toInt) with
      | none => rfl
      | some t' =>
        have hmem := mem_names_of_name? ((ofName?_eq_some_iff hlegible).1 hfind)
        exact absurd hmem (toString_not_mem_names hlegible _)
    have hmin := t.code.le_toInt
    have hmax := t.code.toInt_lt
    have hcode : Integer.signed? (-0x80000000) 0x7FFFFFFF (toString t.code.toInt).toList = some t.code.toInt :=
      Integer.signed?_eq_some_iff.2 ⟨Integer.signed_toString _, by omega, by omega⟩
    rw [text_of_unnamed hname, ofText?, hnone, Option.none_or, hcode, Option.map_some, Int32.ofInt_toInt]

/-- No two terms have the same text. -/
theorem text_injective (hlegible : v.Legible) : Function.Injective (text : Term v → String) := by
  intro t t' h
  have htext := ofText?_text hlegible t
  rw [h, ofText?_text hlegible t'] at htext
  exact (Option.some.inj htext).symm

/-- The terms that are written as names are those with codes of the vocabulary. -/
theorem text_mem_names_iff (hlegible : v.Legible) (t : Term v) :
    t.text ∈ v.names ↔ ∃ i < v.names.length, t.code.toInt = i := by
  constructor
  · intro h
    cases hname : t.name? with
    | some name =>
      obtain ⟨i, hcode, hplace⟩ := name?_eq_some_iff.1 hname
      exact ⟨i, (List.getElem?_eq_some_iff.1 hplace).1, hcode⟩
    | none =>
      rw [text_of_unnamed hname] at h
      exact absurd h (toString_not_mem_names hlegible _)
  · rintro ⟨i, hlt, hcode⟩
    have hname : t.name? = some v.names[i] := name?_eq_some_iff.2 ⟨i, hcode, List.getElem?_eq_getElem hlt⟩
    rw [text_of_name? hname]
    exact List.getElem_mem hlt

end Term

end TelemetryGateway.Telemetry
