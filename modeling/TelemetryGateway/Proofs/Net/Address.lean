import Mathlib
import TelemetryGateway.Net.Address
import TelemetryGateway.Proofs.Text.Integer
import TelemetryGateway.Text.Blank

/-!
# The characters of an address

An address is written in digits of either base, dots and colons, so that nothing else can stand in a text that is
read as one. Its readers stop at the first other character, whatever follows.

## Main definitions

- `isMark`: the characters of addresses
- `Passes`: the way of a reader over such characters

## Main statements

- `Quad.readFront?_append`: what stands behind an IPv4 address does not change how it is read
- `Address.isMark_of_read?`: the characters of a text that spells an address
- `Quad.eq_of_readFront?_zero`: the one text of the IPv4 address that stands for all addresses
-/

namespace TelemetryGateway.Net

open TelemetryGateway.Text

/-- The characters of addresses. -/
def isMark (c : Char) : Bool :=
  isHexDigit c || c == '.' || c == ':'

theorem isMark_of_isDigit {c : Char} (h : c.isDigit = true) : isMark c = true := by
  simp [isMark, isHexDigit, h]

theorem isMark_of_isHexDigit {c : Char} (h : isHexDigit c = true) : isMark c = true := by
  simp [isMark, h]

theorem not_isBlank_of_isMark {c : Char} (h : isMark c = true) : isBlank c = false := by
  have hrange : 46 ≤ c.toNat ∧ c.toNat ≤ 102 := by
    simp only [isMark, isHexDigit, Bool.or_eq_true, Bool.and_eq_true, decide_eq_true_eq, beq_iff_eq, isDigit_iff,
      Char.le_def, UInt32.le_iff_toNat_le] at h
    obtain (((⟨hlow, hhigh⟩ | ⟨hlow, hhigh⟩) | ⟨hlow, hhigh⟩) | rfl) | rfl := h
    · omega
    · exact ⟨le_trans (by decide) hlow, hhigh⟩
    · exact ⟨le_trans (by decide) hlow, le_trans hhigh (by decide)⟩
    · decide
    · decide
  simp only [isBlank, Bool.or_eq_false_iff, Bool.and_eq_false_iff, decide_eq_false_iff_not, beq_eq_false_iff_ne]
  omega

/-! ## The way of a reader -/

/-- A reader gets from a text to the rest of it over characters of addresses. -/
inductive Passes : List Char → List Char → Prop
  | refl (cs : List Char) : Passes cs cs
  | cons {c : Char} {cs rest : List Char} (hc : isMark c = true) (h : Passes cs rest) : Passes (c :: cs) rest

namespace Passes

theorem trans {cs ds es : List Char} (h : Passes cs ds) (h' : Passes ds es) : Passes cs es := by
  induction h with
  | refl => exact h'
  | cons hc _ ih => exact .cons hc (ih h')

theorem isMark_of_mem {cs : List Char} (h : Passes cs []) : ∀ c ∈ cs, isMark c = true := by
  generalize hrest : [] = rest at h
  induction h with
  | refl =>
    rintro c hc
    rw [← hrest] at hc
    cases hc
  | cons hc _ ih => exact List.forall_mem_cons.2 ⟨hc, ih hrest⟩

theorem drop_takeWhile {p : Char → Bool} (hp : ∀ c, p c = true → isMark c = true) (cs : List Char) :
    Passes cs (cs.drop (cs.takeWhile p).length) := by
  induction cs with
  | nil => exact .refl []
  | cons c cs ih =>
    by_cases hc : p c = true
    · simpa [List.takeWhile_cons_of_pos hc] using .cons (hp c hc) ih
    · simpa [List.takeWhile_cons_of_neg hc] using .refl (c :: cs)

end Passes

/-! ## Numbers -/

section Numbers

variable {p : Char → Bool} {width : Nat} {cs ds rest : List Char}

theorem spanNumber?_eq_some (h : spanNumber? p width cs = some (ds, rest)) :
    ds ≠ [] ∧ cs = ds ++ rest ∧ rest = cs.drop (cs.takeWhile p).length := by
  simp only [spanNumber?, Option.ite_none_left_eq_some, Option.some.injEq, Prod.mk.injEq, not_or] at h
  obtain ⟨⟨hne, -⟩, rfl, rfl⟩ := h
  refine ⟨hne, ?_, rfl⟩
  conv_lhs => rw [← List.take_append_drop (cs.takeWhile p).length cs]
  rw [← List.prefix_iff_eq_take.1 (List.takeWhile_prefix p)]

theorem passes_of_spanNumber? (hp : ∀ c, p c = true → isMark c = true)
    (h : spanNumber? p width cs = some (ds, rest)) : Passes cs rest := by
  rw [(spanNumber?_eq_some h).2.2]
  exact .drop_takeWhile hp cs

/-- A number ends before a character that is no digit. -/
theorem spanNumber?_append {c : Char} (hc : p c = false) (cs t : List Char) :
    spanNumber? p width (cs ++ c :: t) = (spanNumber? p width cs).map (Prod.map id (· ++ c :: t)) := by
  have hdigits : (cs ++ c :: t).takeWhile p = cs.takeWhile p := by
    rw [List.takeWhile_append]
    split
    · rename_i hall
      rw [List.takeWhile_cons_of_neg (by simp [hc]), List.append_nil,
        (List.takeWhile_prefix p).eq_of_length hall]
    · rfl
  have hle : (cs.takeWhile p).length ≤ cs.length := (List.takeWhile_prefix p).length_le
  simp only [spanNumber?, hdigits, List.drop_append_of_le_length hle]
  split <;> rfl

end Numbers

/-! ## IPv4 -/

namespace Quad

variable {cs rest : List Char} {n : UInt8} {q : Quad}

theorem part?_eq_some (h : part? cs = some (n, rest)) :
    ∃ ds m, spanNumber? Char.isDigit 3 cs = some (ds, rest) ∧ Integer.digits? ds = some m ∧ m ≤ 255 ∧
      ¬(1 < ds.length ∧ ds.head? = some '0') ∧ n = UInt8.ofNat m := by
  unfold part? at h
  split at h
  · cases h
  · rename_i ds rest' hspan
    split at h
    · cases h
    · rename_i m hm
      simp only [Option.ite_none_left_eq_some, Option.some.injEq, Prod.mk.injEq, not_or, not_lt] at h
      obtain ⟨⟨hle, hidle⟩, rfl, rfl⟩ := h
      exact ⟨ds, m, hspan, hm, hle, hidle, rfl⟩

theorem passes_of_part? (h : part? cs = some (n, rest)) : Passes cs rest := by
  obtain ⟨ds, m, hspan, -⟩ := part?_eq_some h
  exact passes_of_spanNumber? (fun c => isMark_of_isDigit) hspan

theorem next?_eq_some (h : next? cs = some (n, rest)) : ∃ ds, cs = '.' :: ds ∧ part? ds = some (n, rest) := by
  unfold next? at h
  split at h
  · exact ⟨_, rfl, h⟩
  · cases h

theorem passes_of_next? (h : next? cs = some (n, rest)) : Passes cs rest := by
  obtain ⟨ds, rfl, hpart⟩ := next?_eq_some h
  exact .cons rfl (passes_of_part? hpart)

/-- An address is a part and three more. -/
theorem readFront?_eq_some (h : readFront? cs = some (q, rest)) :
    ∃ cs₁ cs₂ cs₃, part? cs = some (q.a, cs₁) ∧ next? cs₁ = some (q.b, cs₂) ∧ next? cs₂ = some (q.c, cs₃) ∧
      next? cs₃ = some (q.d, rest) := by
  simp only [readFront?, Option.bind_eq_bind, Option.bind_eq_some_iff, Prod.exists, Option.some.injEq,
    Prod.mk.injEq] at h
  obtain ⟨a, cs₁, ha, b, cs₂, hb, c, cs₃, hc, d, cs₄, hd, rfl, rfl⟩ := h
  exact ⟨cs₁, cs₂, cs₃, ha, hb, hc, hd⟩

theorem passes_of_readFront? (h : readFront? cs = some (q, rest)) : Passes cs rest := by
  obtain ⟨cs₁, cs₂, cs₃, ha, hb, hc, hd⟩ := readFront?_eq_some h
  exact (passes_of_part? ha).trans ((passes_of_next? hb).trans ((passes_of_next? hc).trans (passes_of_next? hd)))

/-! ### What stands behind an address -/

section Append

variable {c : Char} (hdigit : c.isDigit = false) (hdot : c ≠ '.') (t : List Char)

include hdigit

theorem part?_append (cs : List Char) :
    part? (cs ++ c :: t) = (part? cs).map (Prod.map id (· ++ c :: t)) := by
  unfold part?
  rw [spanNumber?_append hdigit]
  cases hspan : spanNumber? Char.isDigit 3 cs with
  | none => rfl
  | some found =>
    simp only [Option.map_some, Prod.map_fst, Prod.map_snd, id_eq]
    cases Integer.digits? found.1 with
    | none => rfl
    | some m =>
      simp only
      split <;> rfl

include hdot

theorem next?_append (cs : List Char) :
    next? (cs ++ c :: t) = (next? cs).map (Prod.map id (· ++ c :: t)) := by
  obtain _ | ⟨d, cs⟩ := cs
  · simp [next?, hdot]
  · by_cases hd : d = '.'
    · subst hd
      exact part?_append hdigit t cs
    · simp [next?, hd]

/-- What stands behind an address does not change how it is read. -/
theorem readFront?_append (cs : List Char) :
    readFront? (cs ++ c :: t) = (readFront? cs).map (Prod.map id (· ++ c :: t)) := by
  simp only [readFront?, Option.bind_eq_bind, Option.map_bind, part?_append hdigit, Option.bind_map,
    Function.comp_def, Prod.map_fst, Prod.map_snd, id_eq, next?_append hdigit hdot]
  rfl

end Append

/-! ### The address that stands for all addresses -/

/-- A part that is zero is one digit. -/
theorem eq_of_part?_zero (h : part? cs = some (0, rest)) : cs = '0' :: rest := by
  obtain ⟨ds, m, hspan, hm, hle, hidle, hzero⟩ := part?_eq_some h
  have hm0 : m = 0 := by
    have := congrArg UInt8.toNat hzero
    rw [UInt8.toNat_ofNat', Nat.mod_eq_of_lt (by omega)] at this
    exact this.symm
  subst hm0
  rw [(spanNumber?_eq_some hspan).2.1, Integer.eq_zero_of_digits? hm hidle]
  rfl

theorem eq_of_next?_zero (h : next? cs = some (0, rest)) : cs = '.' :: '0' :: rest := by
  obtain ⟨ds, rfl, hpart⟩ := next?_eq_some h
  rw [eq_of_part?_zero hpart]

theorem eq_of_readFront?_zero (h : readFront? cs = some (⟨0, 0, 0, 0⟩, [])) : cs = "0.0.0.0".toList := by
  obtain ⟨cs₁, cs₂, cs₃, ha, hb, hc, hd⟩ := readFront?_eq_some h
  rw [eq_of_part?_zero ha, eq_of_next?_zero hb, eq_of_next?_zero hc, eq_of_next?_zero hd]
  rfl

end Quad

/-! ## IPv6 -/

theorem passes_of_behindColon? {first : Bool} {cs rest : List Char} (h : behindColon? first cs = some rest) :
    Passes cs rest := by
  unfold behindColon? at h
  split at h <;> split at h
  · cases h
    exact .refl _
  · cases h
    exact .cons rfl (.refl _)
  · cases h
    exact .refl _
  · cases h

theorem passes_readGroups (first : Bool) (limit : Nat) (cs : List Char) :
    Passes cs (readGroups first limit cs).rest := by
  fun_induction readGroups first limit cs with
  | case1 => exact .refl _
  | case2 => exact .refl _
  | case3 first cs limit here hhere q rest hfront =>
    have hquad : Quad.readFront? here = some (q, rest) := by
      split at hfront
      · exact hfront
      · cases hfront
    exact (passes_of_behindColon? hhere).trans (Quad.passes_of_readFront? hquad)
  | case4 => exact .refl _
  | case5 first cs limit here hhere _ ds rest hspan more ih =>
    exact (passes_of_behindColon? hhere).trans
      ((passes_of_spanNumber? (fun c => isMark_of_isHexDigit) hspan).trans ih)

theorem passes_of_readSextet? {cs : List Char} {g : Vector UInt16 8} (h : readSextet? cs = some g) :
    Passes cs [] := by
  have hhead := passes_readGroups true 8 cs
  simp only [readSextet?] at h
  split at h
  · split at h
    · rename_i hrest
      rwa [hrest] at hhead
    · cases h
  · split at h
    · cases h
    · split at h
      · rename_i rest hrest
        split at h
        · rename_i htail
          have hrun := passes_readGroups true (7 - (readGroups true 8 cs).groups.length) rest
          rw [htail] at hrun
          rw [hrest] at hhead
          exact hhead.trans (.cons rfl (.cons rfl hrun))
        · cases h
      · cases h

/-! ## Both families -/

namespace Address

variable {s : String}

theorem read?_eq_v4_iff {q : Quad} : read? s = some (.v4 q) ↔ Quad.readFront? s.toList = some (q, []) := by
  unfold read?
  split
  · simp [*]
  · rename_i hnone
    constructor
    · intro h
      obtain ⟨g, -, hg⟩ := Option.map_eq_some_iff.1 h
      cases hg
    · intro h
      exact absurd h (hnone q)

theorem read?_eq_v6_iff {g : Vector UInt16 8} :
    read? s = some (.v6 g) ↔ (∀ q, Quad.readFront? s.toList ≠ some (q, [])) ∧ readSextet? s.toList = some g := by
  unfold read?
  split
  · simp [*]
  · rename_i hnone
    simp only [Option.map_eq_some_iff, Address.v6.injEq, exists_eq_right]
    exact ⟨fun h => ⟨hnone, h⟩, And.right⟩

/-- A text that spells an address is made of the characters of addresses. -/
theorem isMark_of_read? {a : Address} (h : read? s = some a) : ∀ c ∈ s.toList, isMark c = true := by
  cases a with
  | v4 q => exact (Quad.passes_of_readFront? (read?_eq_v4_iff.1 h)).isMark_of_mem
  | v6 g => exact (passes_of_readSextet? (read?_eq_v6_iff.1 h).2).isMark_of_mem

/-- Nothing can be cut off at the ends of a text that spells an address. -/
theorem trim_of_read? {a : Address} (h : read? s = some a) : trim s = s := by
  rw [trim, trimChars_of_not_blank fun c hc => not_isBlank_of_isMark (isMark_of_read? h c hc), String.ofList_toList]

end Address

end TelemetryGateway.Net
