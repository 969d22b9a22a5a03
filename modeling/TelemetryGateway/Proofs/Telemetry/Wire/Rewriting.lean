import Mathlib
import TelemetryGateway.Proofs.Telemetry.Messages
import TelemetryGateway.Proofs.Telemetry.Wire.Kind
import TelemetryGateway.Telemetry.Wire.Message

/-!
# Byte strings that say the same

The binary form of a packet can be rewritten at all its levels without a change of what is read: fields with different
numbers may be swapped, fields with a number that the message does not have may come and go, and a run of
single-precision numbers may be packed in another way.

## Main definitions

- `Level`: the levels at which fields stand
- `Packs`: the byte strings of a run of single-precision numbers
- `Rewrites`: one change of a byte string

## Main statements

- `Level.independent`: fields of a message can be read in either order
- `Rewrites.merge_eq`: one change does not show in what is read
- `Packet.decode_rewritten`: nor do many
-/

namespace TelemetryGateway.Telemetry

namespace Wire

open TelemetryGateway.Number (Single)

/-! ## Fields in either order -/

/-- Two fields that can be read in either order. -/
def Slot.Commute {σ : Type} (s t : Slot σ) : Prop :=
  ∀ depth p q m, (s.merge depth p m).bind (t.merge depth q) = (t.merge depth q m).bind (s.merge depth p)

instance {σ : Type} : Std.Symm (@Slot.Commute σ) where
  symm _ _ h depth p q m := (h depth q p m).symm

/-- Fields in different places can be read in either order. -/
theorem Slot.commute_of {σ α β : Type} {number number' : Nat} {kind : Kind α} {kind' : Kind β} {get : σ → α}
    {get' : σ → β} {set : α → σ → σ} {set' : β → σ → σ}
    (hget : ∀ v m, get' (set v m) = get' m) (hget' : ∀ w m, get (set' w m) = get m)
    (hset : ∀ v w m, set v (set' w m) = set' w (set v m)) :
    (Slot.of number kind get set).Commute (Slot.of number' kind' get' set') := by
  intro depth p q m
  simp only [Slot.of, Function.comp_def, hget, hget', Option.map_eq_bind, Option.bind_assoc,
    Option.bind_some, hset]
  exact Option.bind_comm ..

namespace Schema

variable {σ : Type} {schema : Schema σ}

theorem slot?_eq_some {number : Nat} {slot : Slot σ} (h : schema.slot? number = some slot) :
    slot ∈ schema ∧ slot.number = number := by
  refine ⟨List.mem_of_find?_eq_some h, ?_⟩
  have hnumber := List.find?_some h
  exact beq_iff_eq.1 hnumber

/-- Fields with different numbers can be read in either order. -/
theorem mergeField_comm (h : schema.Pairwise Slot.Commute) {f g : Field} (hne : f.number ≠ g.number) (depth : Nat)
    (m : σ) :
    (schema.mergeField depth m f).bind (fun m => schema.mergeField depth m g) =
      (schema.mergeField depth m g).bind (fun m => schema.mergeField depth m f) := by
  cases hf : schema.slot? f.number with
  | none => simp [mergeField, hf]
  | some s =>
    cases hg : schema.slot? g.number with
    | none => simp [mergeField, hg]
    | some t =>
      obtain ⟨hs, hsnumber⟩ := slot?_eq_some hf
      obtain ⟨ht, htnumber⟩ := slot?_eq_some hg
      have hst : s ≠ t := by
        rintro rfl
        exact hne (hsnumber.symm.trans htnumber)
      have hcomm : s.Commute t := h.forall hs ht hst
      simp only [mergeField, hf, hg]
      exact hcomm depth f.payload g.payload m

/-- Two fields with different numbers are swapped. -/
theorem merge_swap (h : schema.Pairwise Slot.Commute) {depth : Nat} {first second : List UInt8} {f g : Field}
    (hfirst : Field.Spelled schema.byLength depth first f) (hsecond : Field.Spelled schema.byLength depth second g)
    (hne : f.number ≠ g.number) (rest : List UInt8) (m : σ) :
    schema.merge depth (first ++ (second ++ rest)) m = schema.merge depth (second ++ (first ++ rest)) m := by
  simp only [schema.merge_append hfirst, schema.merge_append hsecond, ← Option.bind_assoc]
  rw [mergeField_comm h hne]

/-- A field that the message does not have is skipped. -/
theorem mergeField_skip {f : Field} (h : schema.slot? f.number = none) (depth : Nat) (m : σ) :
    schema.mergeField depth m f = some m := by
  rw [mergeField, h]

end Schema

/-! ## Messages in fields -/

/-- A kind of fields that carry the bytes of a message and read nothing but this message off them. -/
def Kind.Nests {α τ : Type} (kind : Kind α) (schema : Schema τ) : Prop :=
  ∀ depth content content', (∀ m, schema.merge (depth - 1) content m = schema.merge (depth - 1) content' m) →
    ∀ v, kind.merge depth (.bytes content) v = kind.merge depth (.bytes content') v

theorem Kind.nests_message {τ : Type} [Inhabited τ] (schema : Schema τ) : (message schema).Nests schema := by
  intro depth content content' h v
  simp only [message, h]

theorem Kind.nests_messages {τ : Type} [Inhabited τ] (schema : Schema τ) : (messages schema).Nests schema := by
  intro depth content content' h v
  simp only [messages, h]

theorem Kind.nests_attributes : attributes.Nests Kind.entrySchema := by
  intro depth content content' h v
  simp only [attributes, h]

/-- A field that carries the bytes of a message. -/
def Schema.Nests {σ τ : Type} (schema : Schema σ) (number : Nat) (inner : Schema τ) : Prop :=
  ∀ depth content content', (∀ m, inner.merge (depth - 1) content m = inner.merge (depth - 1) content' m) →
    ∀ m, schema.mergeField depth m ⟨number, .bytes content⟩ = schema.mergeField depth m ⟨number, .bytes content'⟩

theorem Schema.nests_of {σ α τ : Type} {schema : Schema σ} {inner : Schema τ} {number : Nat} {kind : Kind α}
    {get : σ → α} {set : α → σ → σ} (hslot : schema.slot? number = some (.of number kind get set))
    (h : kind.Nests inner) : schema.Nests number inner := by
  intro depth content content' hinner m
  simp only [Schema.mergeField, hslot, Slot.of, h depth content content' hinner]

/-! ## Levels -/

/-- The levels at which fields stand: the messages, and the entries of a context. -/
inductive Level where
  | message (t : MessageType)
  | pair
deriving DecidableEq, Repr

/-- What is said at a level. -/
abbrev Level.Content : Level → Type
  | .message t => t.Content
  | .pair => String × String

/-- The fields at a level. -/
def Level.schema : (l : Level) → Schema l.Content
  | .message .packet => packetSchema
  | .message .client => clientSchema
  | .message .hardware => hardwareSchema
  | .message .metrics => metricsSchema
  | .message .point => pointSchema
  | .message .cpu => cpuSchema
  | .message .memory => memorySchema
  | .message .logs => logsSchema
  | .message .entry => Wire.entrySchema
  | .pair => Kind.entrySchema

/-- A field of a level in which another level stands. -/
inductive Level.Below : Level → Nat → Level → Prop
  | metadata : Below (.message .packet) 2 (.message .client)
  | metrics : Below (.message .packet) 3 (.message .metrics)
  | logs : Below (.message .packet) 4 (.message .logs)
  | hardware : Below (.message .client) 7 (.message .hardware)
  | points : Below (.message .metrics) 1 (.message .point)
  | cpu : Below (.message .point) 4 (.message .cpu)
  | memory : Below (.message .point) 5 (.message .memory)
  | entries : Below (.message .logs) 1 (.message .entry)
  | context : Below (.message .entry) 6 .pair

/-- No two fields of a level have the same place. -/
theorem Level.independent (l : Level) : l.schema.Pairwise Slot.Commute := by
  cases l with
  | pair => simp [Level.schema, Kind.entrySchema, Slot.commute_of]
  | message t =>
    cases t with
    | packet => simp [Level.schema, packetSchema, Slot.commute_of]
    | client => simp [Level.schema, clientSchema, Slot.commute_of]
    | hardware => simp [Level.schema, hardwareSchema, Slot.commute_of]
    | metrics => simp [Level.schema, metricsSchema]
    | point => simp [Level.schema, pointSchema, Slot.commute_of]
    | cpu => simp [Level.schema, cpuSchema, Slot.commute_of]
    | memory => simp [Level.schema, memorySchema, Slot.commute_of]
    | logs => simp [Level.schema, logsSchema]
    | entry => simp [Level.schema, Wire.entrySchema, Slot.commute_of]

/-- Nothing is read off a field but what stands at the level below. -/
theorem Level.Below.nests {l inner : Level} {number : Nat} (h : l.Below number inner) :
    l.schema.Nests number inner.schema := by
  cases h with
  | metadata => exact Schema.nests_of rfl (Kind.nests_message _)
  | metrics => exact Schema.nests_of rfl (Kind.nests_message _)
  | logs => exact Schema.nests_of rfl (Kind.nests_message _)
  | hardware => exact Schema.nests_of rfl (Kind.nests_message _)
  | points => exact Schema.nests_of rfl (Kind.nests_messages _)
  | cpu => exact Schema.nests_of rfl (Kind.nests_message _)
  | memory => exact Schema.nests_of rfl (Kind.nests_message _)
  | entries => exact Schema.nests_of rfl (Kind.nests_messages _)
  | context => exact Schema.nests_of rfl Kind.nests_attributes

/-! ## Packed numbers -/

/-- The bytes of a run of core percentages. Each field has one of them or packs some. -/
inductive Packs : List UInt8 → List Single → Prop
  | nil : Packs [] []
  | single {front rest : List UInt8} {x : Single} {xs : List Single}
      (hfront : Item.Spelled cpuSchema.byLength front (.field ⟨2, .fixed32 (littleEndian x.bits)⟩))
      (hrest : Packs rest xs) : Packs (front ++ rest) (x :: xs)
  | packed {front rest : List UInt8} {xs ys : List Single}
      (hfront : Item.Spelled cpuSchema.byLength front
        (.field ⟨2, .bytes (xs.flatMap fun x => littleEndian x.bits)⟩))
      (hrest : Packs rest ys) : Packs (front ++ rest) (xs ++ ys)

/-- However a run is packed, its numbers are appended to those that are there. -/
theorem Packs.merge {run : List UInt8} {xs : List Single} (h : Packs run xs) (depth : Nat) (rest : List UInt8)
    (m : CpuUsage) :
    cpuSchema.merge depth (run ++ rest) m =
      cpuSchema.merge depth rest { m with corePercents := m.corePercents ++ xs } := by
  induction h generalizing m with
  | nil => rw [List.append_nil, List.nil_append]
  | @single front rest' x xs hfront _ ih =>
    have hfield : cpuSchema.mergeField depth m ⟨2, .fixed32 (littleEndian x.bits)⟩ =
        some { m with corePercents := m.corePercents ++ [x] } := by
      show (((ofLittleEndian (littleEndian x.bits)).map fun w => m.corePercents ++ [⟨w⟩]).map fun v =>
        { m with corePercents := v }) = _
      rw [ofLittleEndian_littleEndian]
      rfl
    rw [List.append_assoc, Schema.merge_append _ (.plain hfront), hfield, Option.bind_some, ih]
    simp only [List.append_assoc, List.singleton_append]
  | @packed front rest' xs ys hfront _ ih =>
    have hfield : cpuSchema.mergeField depth m ⟨2, .bytes (xs.flatMap fun x => littleEndian x.bits)⟩ =
        some { m with corePercents := m.corePercents ++ xs } := by
      show (((Kind.unpackFrom [] (xs.flatMap fun x => littleEndian x.bits)).map fun ys =>
        m.corePercents ++ ys).map fun v => { m with corePercents := v }) = _
      rw [Kind.unpackFrom_flatMap]
      rfl
    rw [List.append_assoc, Schema.merge_append _ (.plain hfront), hfield, Option.bind_some, ih]
    simp only [List.append_assoc]

/-! ## Changes -/

/-- One change of the bytes of a level, where an item may stand in fewer than so many groups. -/
inductive Rewrites : Level → Nat → List UInt8 → List UInt8 → Prop
  /-- A change behind a field that stays. -/
  | behind {l : Level} {depth : Nat} {front bs bs' : List UInt8} {f : Field}
      (hfront : Field.Spelled l.schema.byLength depth front f) (h : Rewrites l depth bs bs') :
      Rewrites l depth (front ++ bs) (front ++ bs')
  /-- A change at the level below; the count in front of its bytes is adjusted. -/
  | inside {l inner : Level} {depth number : Nat} {front front' content content' rest : List UInt8}
      (hbelow : l.Below number inner)
      (hfront : Item.Spelled l.schema.byLength front (.field ⟨number, .bytes content⟩))
      (hfront' : Item.Spelled l.schema.byLength front' (.field ⟨number, .bytes content'⟩))
      (h : Rewrites inner (depth - 1) content content') :
      Rewrites l depth (front ++ rest) (front' ++ rest)
  /-- Two fields with different numbers are swapped. -/
  | swap {l : Level} {depth : Nat} {first second rest : List UInt8} {f g : Field}
      (hfirst : Field.Spelled l.schema.byLength depth first f)
      (hsecond : Field.Spelled l.schema.byLength depth second g) (hne : f.number ≠ g.number) :
      Rewrites l depth (first ++ (second ++ rest)) (second ++ (first ++ rest))
  /-- A field with a number that the message does not have is inserted. -/
  | insert {l : Level} {depth : Nat} {front rest : List UInt8} {f : Field}
      (hfront : Field.Spelled l.schema.byLength depth front f) (hunknown : l.schema.slot? f.number = none) :
      Rewrites l depth rest (front ++ rest)
  /-- Such a field is deleted. -/
  | delete {l : Level} {depth : Nat} {front rest : List UInt8} {f : Field}
      (hfront : Field.Spelled l.schema.byLength depth front f) (hunknown : l.schema.slot? f.number = none) :
      Rewrites l depth (front ++ rest) rest
  /-- A run of numbers is packed in another way. -/
  | repack {depth : Nat} {run run' rest : List UInt8} {xs : List Single} (h : Packs run xs) (h' : Packs run' xs) :
      Rewrites (.message .cpu) depth (run ++ rest) (run' ++ rest)

/-- One change does not show in what is read, whatever has been read before. The induction is on the way to the place of
the change. -/
theorem Rewrites.merge_eq {l : Level} {depth : Nat} {bs bs' : List UInt8} (h : Rewrites l depth bs bs')
    (m : l.Content) : l.schema.merge depth bs' m = l.schema.merge depth bs m := by
  induction h with
  | behind hfront _ ih =>
    rw [Schema.merge_append _ hfront, Schema.merge_append _ hfront]
    congr 1
    funext m
    exact ih m
  | @inside l inner depth number front front' content content' rest hbelow hfront hfront' _ ih =>
    rw [Schema.merge_append _ (.plain hfront), Schema.merge_append _ (.plain hfront'),
      hbelow.nests depth content' content ih]
  | swap hfirst hsecond hne => exact Schema.merge_swap (Level.independent _) hsecond hfirst hne.symm _ m
  | insert hfront hunknown =>
    rw [Schema.merge_append _ hfront, Schema.mergeField_skip hunknown, Option.bind_some]
  | delete hfront hunknown =>
    rw [Schema.merge_append _ hfront, Schema.mergeField_skip hunknown, Option.bind_some]
  | repack h h' =>
    exact (h'.merge _ _ m).trans (h.merge _ _ m).symm

/-- A change at the level below, in a field that is written. -/
theorem Rewrites.inside_writeBytes {l inner : Level} {depth number : Nat} {content content' : List UInt8}
    (hbelow : l.Below number inner) (hlength : content.length < 2 ^ 64) (hlength' : content'.length < 2 ^ 64)
    (h : Rewrites inner (depth - 1) content content') :
    Rewrites l depth (writeBytes number content) (writeBytes number content') := by
  have hnumber : IsNumber number := by cases hbelow <;> decide
  have hinside : Rewrites l depth (writeBytes number content ++ []) (writeBytes number content' ++ []) :=
    .inside hbelow (spelled_writeBytes hnumber hlength) (spelled_writeBytes hnumber hlength') h
  rwa [List.append_nil, List.append_nil] at hinside

end Wire

open Wire
open TelemetryGateway.Number (Single)

/-- **Byte strings that say the same are read as the same packet.** However many fields are swapped, come and go or are
packed in another way, at whatever levels, the same packet is read, if any. -/
theorem Packet.decode_rewritten {bs bs' : List UInt8}
    (h : Relation.ReflTransGen (Rewrites (.message .packet) maxDepth) bs bs') :
    Packet.decode bs' = Packet.decode bs := by
  induction h with
  | refl => rfl
  | tail _ hlast ih => exact (hlast.merge_eq {}).trans ih

/-- Two core percentages, packed together. -/
def packedCpu : List UInt8 :=
  writeBytes 2 [0, 0, 0x80, 0x3F, 0, 0, 0, 0x40]

/-- The same ones, the first of them not packed and the second behind a count with a group too many. -/
def unpackedCpu : List UInt8 :=
  (writeKey 2 5 ++ [0, 0, 0x80, 0x3F]) ++ (writeKey 2 2 ++ ([0x84, 0] ++ [0, 0, 0, 0x40]))

/-- The bytes of measurements with one measurement of processor use. -/
def measured (cpu : List UInt8) : List UInt8 :=
  writeBytes 3 (writeBytes 1 (writeBytes 4 cpu))

/-- A group of a number that packets do not have, with another group in it. -/
def strangeGroup : List UInt8 :=
  writeKey 9 3 ++ ((writeKey 1 3 ++ (writeVarint 7 300 ++ writeKey 1 4)) ++ writeKey 9 4)

theorem rewrites_cpu (depth : Nat) : Rewrites (.message .cpu) depth packedCpu unpackedCpu := by
  have htogether : Item.Spelled cpuSchema.byLength packedCpu
      (.field ⟨2, .bytes ([⟨0x3F800000⟩, ⟨0x40000000⟩].flatMap fun x : Single => littleEndian x.bits)⟩) :=
    spelled_writeBytes (by decide) (by decide)
  have hfirst : Item.Spelled cpuSchema.byLength (writeKey 2 5 ++ [0, 0, 0x80, 0x3F])
      (.field ⟨2, .fixed32 (littleEndian (⟨0x3F800000⟩ : Single).bits)⟩) :=
    .fixed32 (isKey_writeKey (by decide) (by decide)) rfl rfl
  have hcount : Varint.Spells [0x84, 0] 4 := ⟨.more (by decide) (.last (by decide)), by decide, by decide⟩
  have hsecond : Item.Spelled cpuSchema.byLength (writeKey 2 2 ++ ([0x84, 0] ++ [0, 0, 0, 0x40]))
      (.field ⟨2, .bytes ([⟨0x40000000⟩].flatMap fun x : Single => littleEndian x.bits)⟩) :=
    .bytes (isKey_writeKey (by decide) (by decide)) (.inr rfl) hcount
  have hpacked := Packs.packed htogether .nil
  have hunpacked := Packs.single hfirst (.packed hsecond .nil)
  have hrun : Rewrites (.message .cpu) depth (packedCpu ++ []) (unpackedCpu ++ []) := by
    rw [List.append_nil] at hpacked hunpacked
    exact .repack hpacked hunpacked
  rwa [List.append_nil, List.append_nil] at hrun

theorem rewrites_measured : Rewrites (.message .packet) maxDepth (measured packedCpu) (measured unpackedCpu) :=
  .inside_writeBytes .metrics (by decide +kernel) (by decide +kernel) <|
    .inside_writeBytes .points (by decide +kernel) (by decide +kernel) <|
    .inside_writeBytes .cpu (by decide +kernel) (by decide +kernel) <| rewrites_cpu _

theorem spelled_strangeGroup : Field.Spelled packetSchema.byLength maxDepth strangeGroup ⟨9, .group⟩ := by
  have hstart : Item.Spelled (fun _ => false) (writeKey 1 3) (.startGroup 1) :=
    .startGroup (isKey_writeKey (by decide) (by decide)) rfl
  have hfinish : Item.Spelled (fun _ => false) (writeKey 1 4) (.endGroup 1) :=
    .endGroup (isKey_writeKey (by decide) (by decide)) rfl
  have hfield : Item.Spelled (fun _ => false) (writeVarint 7 300) (.field ⟨7, .varint 300⟩) :=
    Field.Sound.spelled (f := ⟨7, .varint 300⟩) ⟨by decide, rfl, by decide⟩
  have hinner : Enclosed 99 (writeKey 1 3 ++ ((writeVarint 7 300 ++ []) ++ (writeKey 1 4 ++ []))) :=
    .group hstart (.field hfield .nil) hfinish .nil
  rw [List.append_nil, List.append_nil] at hinner
  exact .group (.startGroup (isKey_writeKey (by decide) (by decide)) rfl) hinner
    (.endGroup (isKey_writeKey (by decide) (by decide)) rfl)

/-- A run is packed in another way, four levels down; then it is swapped with what stands in front; then a group is
inserted at the end. -/
theorem decode_rewritten_deep :
    let front := writeBytes 2 (writeBytes 2 [0xAB])
    Relation.ReflTransGen (Rewrites (.message .packet) maxDepth) (front ++ measured packedCpu)
        (measured unpackedCpu ++ (front ++ strangeGroup)) ∧
      Packet.decode (measured unpackedCpu ++ (front ++ strangeGroup)) =
        some {
          metadata := some { installationId := [0xAB] }
          metrics := some ⟨[{ cpu := some { corePercents := [⟨0x3F800000⟩, ⟨0x40000000⟩] } }]⟩ } := by
  intro front
  have hfront : Item.Spelled packetSchema.byLength front (.field ⟨2, .bytes (writeBytes 2 [0xAB])⟩) :=
    spelled_writeBytes (by decide) (by decide +kernel)
  have hmeasured : Item.Spelled packetSchema.byLength (measured unpackedCpu)
      (.field ⟨3, .bytes (writeBytes 1 (writeBytes 4 unpackedCpu))⟩) :=
    spelled_writeBytes (by decide) (by decide +kernel)
  have hrepacked : Rewrites (.message .packet) maxDepth (front ++ measured packedCpu)
      (front ++ (measured unpackedCpu ++ [])) := by
    rw [List.append_nil]
    exact .behind (.plain hfront) rewrites_measured
  have hswapped : Rewrites (.message .packet) maxDepth (front ++ (measured unpackedCpu ++ []))
      (measured unpackedCpu ++ (front ++ [])) := .swap (.plain hfront) (.plain hmeasured) (by decide)
  have hinserted : Rewrites (.message .packet) maxDepth (measured unpackedCpu ++ (front ++ []))
      (measured unpackedCpu ++ (front ++ (strangeGroup ++ []))) :=
    .behind (.plain hmeasured) (.behind (.plain hfront) (.insert spelled_strangeGroup rfl))
  rw [List.append_nil strangeGroup] at hinserted
  have hsteps := ((Relation.ReflTransGen.single hrepacked).tail hswapped).tail hinserted
  exact ⟨hsteps, (Packet.decode_rewritten hsteps).trans (by decide +kernel)⟩

end TelemetryGateway.Telemetry
