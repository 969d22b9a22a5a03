import Mathlib
import TelemetryGateway.Proofs.Telemetry.Attributes
import TelemetryGateway.Proofs.Telemetry.Wire.Carry

/-!
# What written values do

For each kind of field, what the bytes of a value do to the value that is there already: they replace it,
are appended to it or are merged into it. A value that is left out, because a field has it anyway, leaves what is
there.

## Main definitions

- `overlay`: the effect of a value that is left out where it is the default

## Main statements

- `Kind.carries_integer`: numbers of all widths, and the codes of vocabularies
- `Kind.carries_single`, `Kind.carries_singles`: single-precision numbers, alone and packed
- `Kind.carries_bytes`, `Kind.carries_text`, `Kind.carries_optionalText`: byte strings and texts
- `Kind.carries_message`, `Kind.carries_messages`, `Kind.carries_attributes`: messages, lists and maps
-/

namespace TelemetryGateway.Telemetry.Wire

open TelemetryGateway.Number (Single)
open TelemetryGateway.Text (utf8 ofUtf8? ofUtf8?_utf8)

/-- What is left of a value where another one is written that may be left out. -/
def overlay {α : Type} [DecidableEq α] [Inhabited α] (old new : α) : α :=
  if new = default then old else new

@[simp] theorem overlay_default {α : Type} [DecidableEq α] [Inhabited α] (v : α) :
    overlay default v = v := by
  unfold overlay
  split
  · next h => exact h.symm
  · rfl

namespace Kind

variable {α : Type} {kind : Kind α} {number : Nat}

/-! ## One occurrence and many -/

theorem Carries.nil (v : α) : kind.Carries number [] v v :=
  ⟨[], rfl, fun _ => ⟨by simp, fun _ => rfl⟩⟩

theorem Carries.one {p : Payload} {v v' : α}
    (h : (p.write number).length < 2 ^ 64 → p.Sound kind.byLength ∧
      ∀ depth, kind.merge depth p v = some v') :
    kind.Carries number (p.write number) v v' := by
  refine ⟨[p], by simp, fun hlength => ⟨?_, fun depth => ?_⟩⟩
  · simpa using (h hlength).1
  · simpa using (h hlength).2 depth

theorem Carries.append {bs bs' : List UInt8} {v v' v'' : α} (h : kind.Carries number bs v v')
    (h' : kind.Carries number bs' v' v'') : kind.Carries number (bs ++ bs') v v'' := by
  obtain ⟨ps, hbytes, hread⟩ := h
  obtain ⟨ps', hbytes', hread'⟩ := h'
  refine ⟨ps ++ ps', by rw [List.flatMap_append, hbytes, hbytes'], fun hlength => ?_⟩
  rw [List.length_append] at hlength
  obtain ⟨hsound, hfold⟩ := hread (by omega)
  obtain ⟨hsound', hfold'⟩ := hread' (by omega)
  refine ⟨fun p hp => (List.mem_append.1 hp).elim (hsound p) (hsound' p), fun depth => ?_⟩
  rw [List.foldlM_append, hfold depth]
  exact hfold' depth

theorem length_le_writeBytes (number : Nat) (content : List UInt8) :
    content.length ≤ (writeBytes number content).length := by
  rw [writeBytes, List.length_append]
  exact Nat.le_add_left _ _

/-- One occurrence of a kind that is read by its length. -/
theorem carries_content {content : List UInt8} {v v' : α}
    (h : content.length < 2 ^ 64 → ∀ depth, kind.merge depth (.bytes content) v = some v') :
    kind.Carries number (writeBytes number content) v v' := by
  apply Carries.one (p := .bytes content)
  intro hlength
  have hcontent := (length_le_writeBytes number content).trans_lt hlength
  exact ⟨hcontent, h hcontent⟩

/-! ## Numbers -/

theorem carries_integer [DecidableEq α] [Inhabited α] {toNat : α → Nat} {ofNat : Nat → α}
    (hback : ∀ v, ofNat (toNat v) = v) (hlt : ∀ v, toNat v < 2 ^ 64) (hzero : toNat default = 0)
    (v₀ v : α) :
    (integer toNat ofNat).Carries number ((integer toNat ofNat).write number v) v₀ (overlay v₀ v) := by
  by_cases hdefault : v = default
  -- Left out, so what is there stays
  · simp only [integer, overlay, hdefault, hzero, if_true]
    exact Carries.nil v₀
  -- Only the default is zero, since the number determines the value
  · have hne : toNat v ≠ 0 := by
      intro h
      apply hdefault
      rw [← hback v, ← hback default, h, hzero]
    simp only [integer, overlay, if_neg hne, if_neg hdefault]
    exact Carries.one (p := .varint (toNat v)) fun _ => ⟨⟨rfl, hlt v⟩, fun _ => by simp [hback v]⟩

theorem carries_uint32 (v₀ v : UInt32) : uint32.Carries number (uint32.write number v) v₀ (overlay v₀ v) :=
  carries_integer (fun _ => UInt32.ofNat_toNat) (fun v => v.toNat_lt.trans (by decide)) rfl v₀ v

theorem carries_uint64 (v₀ v : UInt64) : uint64.Carries number (uint64.write number v) v₀ (overlay v₀ v) :=
  carries_integer (fun _ => UInt64.ofNat_toNat) (fun v => v.toNat_lt) rfl v₀ v

theorem carries_int64 (v₀ v : Int64) : int64.Carries number (int64.write number v) v₀ (overlay v₀ v) :=
  carries_integer (fun v => by rw [UInt64.ofNat_toNat]; rfl) (fun v => v.toUInt64.toNat_lt) rfl v₀ v

/-- The low half of an integer that was extended to twice its width is the integer. -/
theorem toInt32_toInt64 (n : Int32) : (UInt32.ofNat n.toInt64.toUInt64.toNat).toInt32 = n := by
  apply Int32.toBitVec_inj.1
  show BitVec.ofNat 32 (n.toBitVec.signExtend 64).toNat = n.toBitVec
  apply BitVec.eq_of_getLsbD_eq
  intro i hi
  -- The extension leaves the lower bits alone
  rw [BitVec.ofNat_toNat, BitVec.getLsbD_setWidth, BitVec.getLsbD_signExtend]
  simp [hi, show i < 64 by omega]

theorem carries_term {voc : Vocabulary} (t₀ t : Term voc) :
    (term voc).Carries number ((term voc).write number t) t₀ (overlay t₀ t) :=
  carries_integer (fun t => congrArg Term.mk (toInt32_toInt64 t.code))
    (fun t => t.code.toInt64.toUInt64.toNat_lt) rfl t₀ t

theorem carries_single (x₀ x : Single) :
    single.Carries number (single.write number x) x₀ (if x.isZero then x₀ else x) := by
  by_cases hzero : x.isZero = true
  · simp only [single, hzero, if_true]
    exact Carries.nil x₀
  · simp only [single, hzero]
    refine Carries.one (p := .fixed32 (littleEndian x.bits)) fun _ => ⟨⟨rfl, rfl⟩, fun _ => ?_⟩
    simp [ofLittleEndian_littleEndian]

theorem unpackFrom_flatMap (done xs : List Single) :
    unpackFrom done (xs.flatMap fun x => littleEndian x.bits) = some (done.reverse ++ xs) := by
  induction xs generalizing done with
  | nil => simp [unpackFrom]
  | cons x xs ih =>
    have hword := ofLittleEndian_littleEndian x.bits
    simp only [littleEndian] at hword
    simp only [List.flatMap_cons, littleEndian, List.cons_append, List.nil_append, unpackFrom, hword]
    exact (ih (x :: done)).trans (by simp)

theorem carries_singles (xs₀ xs : List Single) :
    singles.Carries number (singles.write number xs) xs₀ (xs₀ ++ xs) := by
  by_cases hempty : xs.isEmpty = true
  · simp only [singles, hempty, if_true]
    rw [List.isEmpty_iff.1 hempty, List.append_nil]
    exact Carries.nil xs₀
  · simp only [singles, hempty]
    exact carries_content fun _ _ => by simp [unpackFrom_flatMap]

/-! ## Byte strings and texts -/

theorem carries_bytes (b₀ b : List UInt8) : bytes.Carries number (bytes.write number b) b₀ (overlay b₀ b) := by
  cases b with
  | nil => exact Carries.nil b₀
  | cons c cs => exact carries_content fun _ _ => rfl

theorem carries_text (s₀ s : String) : text.Carries number (text.write number s) s₀ (overlay s₀ s) := by
  by_cases hempty : s = ""
  · rw [hempty]
    exact Carries.nil s₀
  · have hdefault : s ≠ default := hempty
    have hisEmpty : s.isEmpty = false := by simpa using hempty
    simp only [text, hisEmpty, overlay, if_neg hdefault]
    exact carries_content fun _ _ => ofUtf8?_utf8 s

/-- A text that is present replaces what is there, even if it is empty. -/
theorem carries_optionalText (s₀ s : Option String) :
    optionalText.Carries number (optionalText.write number s) s₀ (s.or s₀) := by
  cases s with
  | none => exact Carries.nil s₀
  | some s => exact carries_content fun _ _ => by simp [optionalText, ofUtf8?_utf8]

/-! ## Messages, lists and maps -/

theorem carries_message {τ : Type} [Inhabited τ] {schema : Schema τ} (hvalid : schema.Valid)
    {content : List UInt8} {m₀ : Option τ} {m : τ} (h : schema.Carries content (m₀.getD default) m) :
    (message schema).Carries number (writeBytes number content) m₀ (some m) :=
  carries_content fun hlength depth => by
    simp [message, Schema.merge_of_carries hvalid h hlength]

/-- Each message of a list is read from its defaults. The induction is on the list that is written. -/
theorem carries_messages {τ : Type} [Inhabited τ] {schema : Schema τ} (hvalid : schema.Valid)
    {contents : List (List UInt8)} {ms : List τ}
    (h : List.Forall₂ (fun content m => schema.Carries content default m) contents ms) (ms₀ : List τ) :
    (messages schema).Carries number (contents.flatMap (writeBytes number)) ms₀ (ms₀ ++ ms) := by
  induction h generalizing ms₀ with
  | nil =>
    rw [List.append_nil]
    exact Carries.nil ms₀
  | @cons content m contents ms hfirst _ ih =>
    have hone : (messages schema).Carries number (writeBytes number content) ms₀ (ms₀ ++ [m]) :=
      carries_content fun hlength depth => by
        simp [messages, Schema.merge_of_carries hvalid hfirst hlength]
    rw [List.append_cons]
    exact hone.append (ih (ms₀ ++ [m]))

theorem entrySchema_valid : entrySchema.Valid := by decide

theorem carries_entry (e : String × String) : entrySchema.Carries (entrySchema.write e) ("", "") e := by
  have h : entrySchema.Carries (entrySchema.write e) ("", "") (overlay "" e.1, overlay "" e.2) := by
    refine .write_cons (Slot.carries_of (carries_text _ _) ?_) <|
      .write_cons (Slot.carries_of (carries_text _ _) ?_) (.nil _) <;>
      exact ⟨fun _ _ => rfl, fun _ _ _ => rfl, fun _ => rfl⟩
  -- A key or a value that is left out is empty, and so is what an entry is read from
  have hkey : overlay "" e.1 = e.1 := overlay_default e.1
  have hvalue : overlay "" e.2 = e.2 := overlay_default e.2
  rwa [hkey, hvalue] at h

/-- Entries are set one after the other. -/
theorem carries_attributes (order : List (String × String)) (a₀ : Attributes) :
    attributes.Carries number (order.flatMap fun e => writeBytes number (entrySchema.write e)) a₀
      (a₀.insertAll order) := by
  induction order generalizing a₀ with
  | nil => exact Carries.nil a₀
  | cons e order ih =>
    have hone : attributes.Carries number (writeBytes number (entrySchema.write e)) a₀
        (a₀.insert e.1 e.2) :=
      carries_content fun hlength depth => by
        simp [attributes, Schema.merge_of_carries entrySchema_valid (carries_entry e) hlength]
    rw [List.flatMap_cons]
    exact hone.append (ih (a₀.insert e.1 e.2))

end Kind

end TelemetryGateway.Telemetry.Wire
