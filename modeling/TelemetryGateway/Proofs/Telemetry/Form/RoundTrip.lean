import Mathlib
import TelemetryGateway.Proofs.Telemetry.Form.Kind

/-!
# Packets survive JSON

Every packet is read back from its JSON text, in whatever order the contexts of its log entries are written,
as long as its single-precision numbers are finite and their decimal texts are read as the same numbers.

## Main definitions

- `LogEntry.Written`, `LogBatch.Written`, `Packet.Written`: the JSON forms, with contexts in any order
- `Packet.singles`: the single-precision numbers of a packet

## Main statements

- `Form.read_hardware`, …, `Form.read_packet`: one message each
- `Packet.ofJson_written`: reading back
-/

namespace TelemetryGateway.Telemetry

open TelemetryGateway.Json
open TelemetryGateway.Number (Single)
open TelemetryGateway.Text

/-! ## Any order of contexts -/

/-- A JSON form of a log entry, with the entries of its context in some order. -/
def LogEntry.Written (e : LogEntry) (v : Value) : Prop :=
  ∃ order : List (String × String), order.Perm e.context.entries ∧ v = e.toJsonIn order

/-- A JSON form of log entries. -/
def LogBatch.Written (b : LogBatch) (v : Value) : Prop :=
  ∃ vs : List Value, List.Forall₂ (fun v e => LogEntry.Written e v) vs b.entries ∧
    v = .object [("entries", .array vs)]

/-- A JSON form of a packet. -/
def Packet.Written (p : Packet) (v : Value) : Prop :=
  ∃ logs : Value,
    (match p.logs with
      | none => logs = .null
      | some b => b.Written logs) ∧
    v = .object
      [ ("schema_version", natural32 p.schemaVersion),
        ("metadata", optionalValue Client.toJson p.metadata),
        ("metrics", optionalValue MetricBatch.toJson p.metrics),
        ("logs", logs) ]

/-- The order of the keys is one of the orders. -/
theorem Packet.written_toJson (p : Packet) : p.Written p.toJson := by
  refine ⟨optionalValue LogBatch.toJson p.logs, ?_, rfl⟩
  cases p.logs with
  | none => rfl
  | some b =>
    refine ⟨b.entries.map LogEntry.toJson, ?_, rfl⟩
    rw [List.forall₂_map_left_iff, List.forall₂_same]
    exact fun e _ => ⟨e.context.entries, .refl _, rfl⟩

/-! ## Single-precision numbers -/

/-- The single-precision numbers of processor use. -/
def CpuUsage.singles (c : CpuUsage) : List Single := c.totalPercent :: c.corePercents

/-- The single-precision numbers of a measurement. -/
def MetricPoint.singles (p : MetricPoint) : List Single :=
  p.batteryLevelPercent :: p.cpu.toList.flatMap (·.singles)

/-- The single-precision numbers of a packet. -/
def Packet.singles (p : Packet) : List Single :=
  p.metrics.toList.flatMap fun b => b.points.flatMap (·.singles)

/-! ## Messages -/

namespace Form

theorem tree_object_ne_null (members : List (String × Value)) : (Value.object members).tree ≠ .null := by
  rw [Value.tree]
  exact Tree.noConfusion

/-- A message that may be absent. -/
theorem optional_message {τ : Type} {read : Read τ} {members : τ → List (String × Value)} {o : Option τ}
    (h : ∀ x ∈ o, read (Value.object (members x)).tree = .ok x) :
    optional read (optionalValue (fun x => .object (members x)) o).tree = .ok o :=
  optional_optionalValue h fun x _ => tree_object_ne_null (members x)

theorem list_map {τ : Type} {read : Read τ} {value : τ → Value} {xs : List τ}
    (h : ∀ x ∈ xs, read (value x).tree = .ok x) : list read (Value.array (xs.map value)).tree = .ok xs := by
  refine list_array ?_
  rw [List.forall₂_map_left_iff, List.forall₂_same]
  exact h

theorem read_hardware (h : Hardware) : message hardwareSchema h.toJson.tree = .ok h :=
  message_of_gives (by decide) <|
    .cons (read_of (uint32_natural32 _)) <|
    .cons (read_of (uint32_natural32 _)) <|
    .cons (read_of (uint32_natural32 _)) <|
    .cons (read_of (uint32_natural32 _)) <|
    .cons (read_of (uint32_natural32 _)) <|
    .cons (read_of (uint64_natural64 _)) <| .nil _

theorem read_client (c : Client) : message clientSchema c.toJson.tree = .ok c :=
  message_of_gives (by decide) <|
    .cons (read_of (term_toJson (by decide) _)) <|
    .cons (read_of (bytes_binary _)) <|
    .cons (read_of (bytes_binary _)) <|
    .cons (read_of (uint32_natural32 _)) <|
    .cons (read_of (text_string _)) <|
    .cons (read_of (text_string _)) <|
    .cons (read_of (optional_message fun x _ => read_hardware x)) <| .nil _

theorem read_cpu {c : CpuUsage} (h : ∀ x ∈ c.singles, ReadsBack x) :
    message cpuSchema c.toJson.tree = .ok c :=
  message_of_gives (by decide) <|
    .cons (read_of (single_single (h _ List.mem_cons_self))) <|
    .cons (read_of (list_map fun x hx => single_single (h x (List.mem_cons_of_mem _ hx)))) <| .nil _

theorem read_memory (m : MemoryUsage) : message memorySchema m.toJson.tree = .ok m :=
  message_of_gives (by decide) <|
    .cons (read_of (uint64_natural64 _)) <|
    .cons (read_of (uint64_natural64 _)) <|
    .cons (read_of (uint64_natural64 _)) <|
    .cons (read_of (uint64_natural64 _)) <|
    .cons (read_of (uint64_natural64 _)) <|
    .cons (read_of (uint64_natural64 _)) <| .nil _

theorem read_point {p : MetricPoint} (h : ∀ x ∈ p.singles, ReadsBack x) :
    message pointSchema p.toJson.tree = .ok p := by
  have hcpu : ∀ c ∈ p.cpu, message cpuSchema c.toJson.tree = .ok c := by
    intro c hc
    apply read_cpu
    intro x hx
    have hmem : x ∈ p.cpu.toList.flatMap (·.singles) :=
      List.mem_flatMap.2 ⟨c, Option.mem_toList.2 hc, hx⟩
    exact h x (List.mem_cons_of_mem _ hmem)
  exact message_of_gives (by decide) <|
    .cons (read_of (int64_toInt _)) <|
    .cons (read_of (term_toJson (by decide) _)) <|
    .cons (read_of (single_single (h _ List.mem_cons_self))) <|
    .cons (read_of (optional_message hcpu)) <|
    .cons (read_of (optional_message fun m _ => read_memory m)) <| .nil _

theorem read_metrics {b : MetricBatch} (h : ∀ p ∈ b.points, ∀ x ∈ p.singles, ReadsBack x) :
    message metricsSchema b.toJson.tree = .ok b :=
  message_of_gives (by decide) <|
    .cons (read_of (list_map fun p hp => read_point (h p hp))) <| .nil _

/-- A log entry is read back, whatever the order in its context. -/
theorem read_entry {e : LogEntry} {v : Value} (h : e.Written v) :
    message entrySchema v.tree = .ok e := by
  obtain ⟨order, hperm, rfl⟩ := h
  exact message_of_gives (by decide) <|
    .cons (read_of (int64_toInt _)) <|
    .cons (read_of (term_toJson (by decide) _)) <|
    .cons (read_of (term_toJson (by decide) _)) <|
    .cons (read_of (text_string _)) <|
    .cons (read_of (text_string _)) <|
    .cons (read_of (attributes_entriesToJson hperm)) <|
    .cons (read_of (optional_optionalValue (fun s _ => text_string s) fun s _ => by
      rw [Value.tree]; exact Tree.noConfusion)) <|
    .cons (read_of (text_string _)) <|
    .cons (read_of (text_string _)) <| .nil _

theorem read_logs {b : LogBatch} {v : Value} (h : b.Written v) :
    message logsSchema v.tree = .ok b := by
  obtain ⟨vs, hentries, rfl⟩ := h
  exact message_of_gives (by decide) <|
    .cons (read_of (list_array (hentries.imp fun _ _ => read_entry))) <| .nil _

theorem read_optional_logs {o : Option LogBatch} {logs : Value}
    (h : match o with
      | none => logs = .null
      | some b => b.Written logs) : optional (message logsSchema) logs.tree = .ok o := by
  cases o with
  | none =>
    rw [h, Value.tree]
    rfl
  -- An object is no null, so it is handed on to the reader of messages
  | some b =>
    have hread := read_logs h
    obtain ⟨vs, -, rfl⟩ := h
    rw [Value.tree] at hread ⊢
    rw [optional, hread]
    · rfl
    · exact Tree.noConfusion

theorem read_packet {p : Packet} {v : Value} (h : p.Written v) (hsingles : ∀ x ∈ p.singles, ReadsBack x) :
    message packetSchema v.tree = .ok p := by
  obtain ⟨logs, hlogs, rfl⟩ := h
  -- The numbers of the measurements are among those of the packet
  have hmetrics : ∀ b ∈ p.metrics, message metricsSchema b.toJson.tree = .ok b := by
    intro b hb
    apply read_metrics
    intro point hpoint x hx
    apply hsingles
    exact List.mem_flatMap.2 ⟨b, Option.mem_toList.2 hb, List.mem_flatMap.2 ⟨point, hpoint, hx⟩⟩
  exact message_of_gives (by decide) <|
    .cons (read_of (uint32_natural32 _)) <|
    .cons (read_of (optional_message fun c _ => read_client c)) <|
    .cons (read_of (optional_message hmetrics)) <|
    .cons (read_of (read_optional_logs hlogs)) <| .nil _

end Form

/-! ## Texts -/

/-- **Packets survive JSON.** A packet is read back from the text of each of its JSON forms, the one the
model writes among them. -/
theorem Packet.ofJson_written (p : Packet) :
    p.Written p.toJson ∧
      ∀ v, p.Written v → (∀ x ∈ p.singles, Form.ReadsBack x) → Packet.ofJson (utf8 v.text) = .ok p := by
  refine ⟨p.written_toJson, fun v hwritten hsingles => ?_⟩
  rw [Packet.ofJson, Value.read_text, Form.readPacket, Form.read_packet hwritten hsingles]
  rfl

/-- A log entry with a code of no name, characters that have to be escaped and others that are no ASCII, and a
context of two entries. -/
def awkwardEntry : LogEntry where
  clientTimestampMs := Int64.minValue
  level := ⟨-7⟩
  tag := "\u0001\"\\"
  message := "ä𝄞\u2028"
  context := .ofList [("a", ""), ("b", "c")]

/-- A packet with the greatest number of sixty-four bits, bytes that fill no group of three, a negative zero and
a number that no single-precision number equals. -/
def awkwardPacket : Packet where
  metadata := some {
    platform := ⟨2⟩
    installationId := [0, 255, 7, 1]
    hardware := some { totalPhysicalMemory := 0xFFFFFFFFFFFFFFFF } }
  metrics := some ⟨[{
    batteryLevelPercent := ⟨0x3DCCCCCD⟩
    cpu := some { corePercents := [⟨0x80000000⟩] } }]⟩
  logs := some ⟨[awkwardEntry]⟩

/-- The JSON form of `awkwardPacket` with the context of its log entry turned round. -/
def awkwardForm : Value :=
  .object
    [ ("schema_version", natural32 0),
      ("metadata", optionalValue Client.toJson awkwardPacket.metadata),
      ("metrics", optionalValue MetricBatch.toJson awkwardPacket.metrics),
      ("logs", .object
        [("entries", .array [awkwardEntry.toJsonIn [("b", "c"), ("a", "")]])]) ]

theorem ofJson_awkwardForm : Packet.ofJson (utf8 awkwardForm.text) = .ok awkwardPacket := by
  have hentry : awkwardEntry.Written (awkwardEntry.toJsonIn [("b", "c"), ("a", "")]) :=
    ⟨_, by decide +kernel, rfl⟩
  exact (Packet.ofJson_written awkwardPacket).2 awkwardForm
    ⟨_, ⟨_, .cons hentry .nil, rfl⟩, rfl⟩ (by decide +kernel)

end TelemetryGateway.Telemetry
