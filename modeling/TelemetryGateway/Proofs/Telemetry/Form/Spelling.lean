import Mathlib
import TelemetryGateway.Proofs.Telemetry.Form.Members
import TelemetryGateway.Proofs.Telemetry.Messages
import TelemetryGateway.Telemetry.Form.Message

/-!
# Both spellings of a field

A field goes by its name in snake case and by the name that the protocol gives it in JSON. The latter is made by a loop
over the letters of the former, and declared for the fields where it is another name. The declarations are complete, so
every field goes by both names, and no two fields of a message share one.

## Main definitions

- `MessageType.form`: the fields of a message in JSON
- `jsonName`: the name of a field in JSON
- `Form.Schema.Named`: fields that go by both names and share none
- `aliased`: the fields for which it is declared
- `MessageType.Names`: the names of a field

## Main statements

- `MessageType.names_iff`: the declarations are complete
- `MessageType.find?_of_names`: a field is found by each of its names
-/

namespace TelemetryGateway.Telemetry

open Form

instance (t : MessageType) : Inhabited t.Content := by
  cases t <;> exact ⟨default⟩

/-- The fields of a message in JSON. -/
def MessageType.form : (t : MessageType) → Form.Schema t.Content
  | .packet => packetSchema
  | .client => clientSchema
  | .hardware => hardwareSchema
  | .metrics => metricsSchema
  | .point => pointSchema
  | .cpu => cpuSchema
  | .memory => memorySchema
  | .logs => logsSchema
  | .entry => entrySchema

/-- The names of the fields of a message in snake case. -/
def MessageType.fields (t : MessageType) : List String :=
  t.form.map (·.name)

/-- One letter of a name, behind those of `name`, which are in reverse order; `raised` tells that it is to be a
capital. -/
def jsonStep : List Char × Bool → Char → List Char × Bool
  | (name, raised), c =>
    if c = '_' then (name, true)
    else if raised then (c.toUpper :: name, false)
    else (c :: name, false)

/-- The name of a field in JSON. -/
def jsonName (field : String) : String :=
  String.ofList (field.toList.foldl jsonStep ([], false)).1.reverse

/-- The fields that are declared to have another name in JSON. -/
def aliased : List (MessageType × String) :=
  [ (.packet, "schema_version"),
    (.client, "installation_id"),
    (.client, "journey_id"),
    (.client, "sdk_version_packed"),
    (.client, "host_app_version"),
    (.client, "host_app_name"),
    (.client, "device_hardware"),
    (.hardware, "physical_cores"),
    (.hardware, "logical_cpus"),
    (.hardware, "l1_cache_kb"),
    (.hardware, "l2_cache_kb"),
    (.hardware, "l3_cache_kb"),
    (.hardware, "total_physical_memory"),
    (.point, "client_timestamp_ms"),
    (.point, "network_type"),
    (.point, "battery_level_percent"),
    (.cpu, "total_usage_percent"),
    (.cpu, "core_usage_percent"),
    (.memory, "app_resident_bytes"),
    (.memory, "app_virtual_bytes"),
    (.memory, "system_free_bytes"),
    (.memory, "system_active_bytes"),
    (.memory, "system_inactive_bytes"),
    (.memory, "system_wired_bytes"),
    (.entry, "client_timestamp_ms"),
    (.entry, "network_type"),
    (.entry, "stack_trace"),
    (.entry, "thread_name"),
    (.entry, "error_code") ]

/-- The names of a field: that in snake case, and that in JSON if it is declared. -/
def MessageType.Names (t : MessageType) (field name : String) : Prop :=
  name = field ∨ ((t, field) ∈ aliased ∧ name = jsonName field)

/-- Two fields that share no name. -/
def Apart (field field' : String) : Prop :=
  field ≠ field' ∧ field ≠ jsonName field' ∧ jsonName field ≠ field' ∧ jsonName field ≠ jsonName field'

instance (field field' : String) : Decidable (Apart field field') :=
  inferInstanceAs (Decidable (_ ∧ _))

theorem Apart.symm {field field' : String} (h : Apart field field') : Apart field' field :=
  ⟨h.1.symm, h.2.2.1.symm, h.2.1.symm, h.2.2.2.symm⟩

/-- Fields that go by their names in snake case and in JSON, of which no two share one. -/
structure Form.Schema.Named {σ : Type} (schema : Schema σ) : Prop where
  camelCase : ∀ slot ∈ schema, camelCase slot.name = jsonName slot.name
  apart : (schema.map (·.name)).Pairwise Apart

namespace Form.Schema.Named

variable {σ : Type} {schema : Schema σ}

theorem spells_iff (h : schema.Named) {slot : Slot σ} (hslot : slot ∈ schema) {name : String} :
    slot.spells name = true ↔ name = slot.name ∨ name = jsonName slot.name := by
  rw [Slot.spells, h.camelCase slot hslot, Bool.or_eq_true, beq_iff_eq, beq_iff_eq, eq_comm,
    @eq_comm _ (jsonName _)]

theorem nodup (h : schema.Named) : (schema.map (·.name)).Nodup :=
  h.apart.imp fun hapart => hapart.1

/-- No name is one of two fields. -/
theorem unique (h : schema.Named) : ∀ s ∈ schema, ∀ t ∈ schema, ∀ name, s.spells name = true →
    t.spells name = true → s = t := by
  intro s hs t ht name hname hname'
  by_contra hne
  have hpairs : schema.Pairwise fun a b => Apart a.name b.name := List.pairwise_map.1 h.apart
  have hsymm : Std.Symm fun a b : Slot σ => Apart a.name b.name := ⟨fun _ _ => Apart.symm⟩
  obtain ⟨h₁, h₂, h₃, h₄⟩ := hpairs.forall hs ht hne
  rcases (h.spells_iff hs).1 hname with hslot | hslot <;>
    rcases (h.spells_iff ht).1 hname' with hslot' | hslot'
  · exact h₁ (hslot.symm.trans hslot')
  · exact h₂ (hslot.symm.trans hslot')
  · exact h₃ (hslot.symm.trans hslot')
  · exact h₄ (hslot.symm.trans hslot')

end Form.Schema.Named

namespace MessageType

variable {t : MessageType}

/-- The names in JSON are those in lower camel case, and declared where they differ from those in snake case. -/
theorem camelCase_field : ∀ t : MessageType, ∀ field ∈ t.fields,
    camelCase field = jsonName field ∧ ((t, field) ∈ aliased ∨ jsonName field = field) := by
  intro t
  cases t <;> decide +kernel

theorem apart_fields (t : MessageType) : t.fields.Pairwise Apart := by
  cases t <;> decide +kernel

/-- The declarations are complete: every field goes by both names. -/
theorem names_iff {field name : String} (h : field ∈ t.fields) :
    t.Names field name ↔ name = field ∨ name = jsonName field := by
  obtain ⟨-, haliased⟩ := camelCase_field t field h
  constructor
  · rintro (hname | ⟨-, hname⟩)
    · exact .inl hname
    · exact .inr hname
  · rintro (hname | hname)
    · exact .inl hname
    · rcases haliased with haliased | hsame
      · exact .inr ⟨haliased, hname⟩
      · exact .inl (hname.trans hsame)

theorem named_form (t : MessageType) : t.form.Named where
  camelCase slot hslot := (camelCase_field t slot.name (List.mem_map_of_mem hslot)).1
  apart := t.apart_fields

/-- A field is found by each of its names. -/
theorem find?_of_names {slot : Slot t.Content} (h : slot ∈ t.form) {name : String} (hname : t.Names slot.name name) :
    t.form.find? (·.spells name) = some slot := by
  have hspells := (t.named_form.spells_iff h).2 ((names_iff (List.mem_map_of_mem h)).1 hname)
  exact find?_of_spells t.named_form.unique h hspells

end MessageType

end TelemetryGateway.Telemetry
