import Mathlib
import TelemetryGateway.Proofs.Telemetry.Wire.Field
import TelemetryGateway.Telemetry.Wire.Kind

/-!
# What written fields do to a message

Reading is merging: each field on the wire changes the message read so far. Written values are seen here
as what they do to any message, and a message that is written as what all its fields do, one after the other.
A read from nothing is the special case in which the message starts out with its defaults.

## Main definitions

- `Kind.Carries`, `Slot.Carries`, `Schema.Carries`: bytes that take one value to another
- `Lens`: a place in a structure

## Main statements

- `Slot.carries_of`: from the value in a place to the whole message
- `Schema.merge_of_carries`: a message reads the bytes that carry it
-/

namespace TelemetryGateway.Telemetry.Wire

/-! ## Carrying values -/

/-- Bytes that hold fields of one number and nothing else, and that take one value to another. -/
def Kind.Carries {α : Type} (kind : Kind α) (number : Nat) (bs : List UInt8) (v v' : α) : Prop :=
  ∃ ps : List Payload, bs = ps.flatMap (Payload.write number) ∧
    (bs.length < 2 ^ 64 → (∀ p ∈ ps, p.Sound kind.byLength) ∧
      ∀ depth, ps.foldlM (fun v p => kind.merge depth p v) v = some v')

/-- Bytes that hold fields of one slot and nothing else, and that take one message to another. -/
def Slot.Carries {σ : Type} (slot : Slot σ) (bs : List UInt8) (m m' : σ) : Prop :=
  ∃ ps : List Payload, bs = ps.flatMap (Payload.write slot.number) ∧
    (bs.length < 2 ^ 64 → (∀ p ∈ ps, p.Sound slot.byLength) ∧
      ∀ depth, ps.foldlM (fun m p => slot.merge depth p m) m = some m')

/-- Bytes that hold fields of the slots of a schema in their order, and that take one message to
another. -/
inductive Schema.Carries {σ : Type} : Schema σ → List UInt8 → σ → σ → Prop
  | nil (m : σ) : Schema.Carries [] [] m m
  | cons {slot : Slot σ} {schema : Schema σ} {bs bs' : List UInt8} {m m' m'' : σ}
      (hslot : slot.Carries bs m m') (hrest : Schema.Carries schema bs' m' m'') :
      Schema.Carries (slot :: schema) (bs ++ bs') m m''

/-! ## Places in a message -/

/-- What is set in a place is found there, replaces what was there before, and nothing else changes. -/
structure Lens {σ α : Type} (get : σ → α) (set : α → σ → σ) : Prop where
  get_set : ∀ v m, get (set v m) = v
  set_set : ∀ v w m, set v (set w m) = set v m
  set_get : ∀ m, set (get m) m = m

/-- Merging into a place is merging what is in the place. -/
theorem Lens.foldlM_merge {σ α : Type} {get : σ → α} {set : α → σ → σ} (hlens : Lens get set)
    (step : α → Payload → Option α) (ps : List Payload) (m : σ) :
    ps.foldlM (fun m p => (step (get m) p).map fun v => set v m) m =
      (ps.foldlM step (get m)).map fun v => set v m := by
  induction ps generalizing m with
  | nil => simp [hlens.set_get]
  | cons p ps ih =>
    cases hstep : step (get m) p with
    | none => simp [hstep]
    -- What is set later replaces what is set here
    | some v =>
      have hset : (fun w => set w (set v m)) = fun w => set w m := by
        funext w
        exact hlens.set_set w v m
      simp [hstep, ih, hlens.get_set, hset]

/-- From the value in a place to the whole message. -/
theorem Slot.carries_of {σ α : Type} {number : Nat} {kind : Kind α} {get : σ → α} {set : α → σ → σ}
    {bs : List UInt8} {m : σ} {v : α} (h : kind.Carries number bs (get m) v) (hlens : Lens get set) :
    (Slot.of number kind get set).Carries bs m (set v m) := by
  obtain ⟨ps, hbytes, hread⟩ := h
  refine ⟨ps, hbytes, fun hlength => ⟨(hread hlength).1, fun depth => ?_⟩⟩
  have hfold := hlens.foldlM_merge (fun v p => kind.merge depth p v) ps m
  rw [(hread hlength).2 depth] at hfold
  exact hfold

/-! ## Messages -/

namespace Schema

variable {σ : Type} {schema : Schema σ}

/-- Fields have different numbers, all of which a field may have. -/
def Valid (schema : Schema σ) : Prop :=
  (schema.map (·.number)).Nodup ∧ ∀ n ∈ schema.map (·.number), IsNumber n

instance (schema : Schema σ) : Decidable schema.Valid :=
  inferInstanceAs (Decidable (_ ∧ _))

/-- The slot of a number is the one that has it. -/
theorem slot?_number (hnodup : (schema.map (·.number)).Nodup) {slot : Slot σ} (hmem : slot ∈ schema) :
    schema.slot? slot.number = some slot := by
  induction schema with
  | nil => cases hmem
  | cons first rest ih =>
    obtain ⟨hfirst, hrest⟩ := List.nodup_cons.1 hnodup
    rcases List.mem_cons.1 hmem with rfl | hmem
    · simp [slot?]
    · have hne : first.number ≠ slot.number := by
        intro h
        exact hfirst (List.mem_map.2 ⟨slot, hmem, h.symm⟩)
      have hbeq : (first.number == slot.number) = false := beq_false_of_ne hne
      simpa [slot?, List.find?_cons, hbeq] using ih hrest hmem

theorem Carries.append {part : Schema σ} {bs bs' : List UInt8} {m m' m'' : σ} (h : schema.Carries bs m m')
    (h' : part.Carries bs' m' m'') : Schema.Carries (schema ++ part) (bs ++ bs') m m'' := by
  induction h with
  | nil m => exact h'
  | cons hslot _ ih =>
    rw [List.append_assoc]
    exact .cons hslot (ih h')

/-- A slot that is written as it stands in the model of the message. -/
theorem Carries.write_cons {slot : Slot σ} {m m₀ m₁ m₂ : σ} (hslot : slot.Carries (slot.write m) m₀ m₁)
    (hrest : schema.Carries (schema.write m) m₁ m₂) :
    Schema.Carries (slot :: schema) (Schema.write (slot :: schema) m) m₀ m₂ :=
  .cons hslot hrest

/-- Bytes that carry a message are a run of fields that change it in this way. The induction is on the
slots that are left of the schema. -/
theorem Carries.exists_fields {part : Schema σ} {bs : List UInt8} {m m' : σ} (hvalid : schema.Valid)
    (hpart : ∀ slot ∈ part, slot ∈ schema) (h : part.Carries bs m m') :
    ∃ fs : List Field, bs = fs.flatMap Field.write ∧ (bs.length < 2 ^ 64 →
      (∀ f ∈ fs, f.Sound schema.byLength) ∧
        ∀ depth, fs.foldlM (schema.mergeField depth) m = some m') := by
  induction h with
  | nil m => exact ⟨[], rfl, fun _ => ⟨by simp, fun _ => rfl⟩⟩
  | @cons slot part bs bs' m m' m'' hslot _ ih =>
    obtain ⟨ps, hbytes, hread⟩ := hslot
    obtain ⟨fs, hbytes', hread'⟩ := ih fun s hs => hpart s (List.mem_cons_of_mem _ hs)
    have hmem := hpart slot List.mem_cons_self
    have hslot? := slot?_number hvalid.1 hmem
    have hkind : schema.byLength slot.number = slot.byLength := by
      rw [Schema.byLength, hslot?, Option.any_some]
    -- The fields of this slot and those of the slots behind it; both parts are shorter than the whole
    refine ⟨ps.map (Field.mk slot.number) ++ fs, ?_, fun hlength => ?_⟩
    · rw [List.flatMap_append, List.flatMap_map, hbytes, hbytes']
      rfl
    rw [List.length_append] at hlength
    obtain ⟨hsound, hfold⟩ := hread (by omega)
    obtain ⟨hsound', hfold'⟩ := hread' (by omega)
    refine ⟨fun f hf => ?_, fun depth => ?_⟩
    · rcases List.mem_append.1 hf with hf | hf
      · obtain ⟨p, hp, rfl⟩ := List.mem_map.1 hf
        refine ⟨hvalid.2 _ (List.mem_map_of_mem hmem), ?_⟩
        show p.Sound (schema.byLength slot.number)
        rw [hkind]
        exact hsound p hp
      · exact hsound' f hf
    -- The schema hands a field over to its slot
    · have hstep : (fun m p => schema.mergeField depth m (Field.mk slot.number p)) =
          fun m p => slot.merge depth p m := by
        funext m p
        simp only [mergeField, hslot?]
      rw [List.foldlM_append, List.foldlM_map, hstep, hfold depth]
      exact hfold' depth

/-- A message reads the bytes that carry it. -/
theorem merge_of_carries {bs : List UInt8} {m m' : σ} (hvalid : schema.Valid)
    (h : schema.Carries bs m m') (hlength : bs.length < 2 ^ 64) (depth : Nat) :
    schema.merge depth bs m = some m' := by
  obtain ⟨fs, hbytes, hread⟩ := h.exists_fields hvalid fun _ h => h
  obtain ⟨hsound, hfold⟩ := hread hlength
  rw [Schema.merge, hbytes, Field.readAll_write hsound, Option.bind_some, hfold depth]

end Schema

end TelemetryGateway.Telemetry.Wire
