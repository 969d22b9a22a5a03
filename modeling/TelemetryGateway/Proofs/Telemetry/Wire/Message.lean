import Mathlib
import TelemetryGateway.Proofs.Telemetry.Wire.Kind
import TelemetryGateway.Telemetry.Wire.Message

/-!
# What written messages do

The binary form of each message of a packet, as a change of the message that is there already. The contexts
of log entries are maps, and their entries may be written in any order.

## Main definitions

- `Single.settled`, …, `Packet.settled`: what is read back of numbers that equal zero
- `Hardware.overlay`, …, `Packet.overlay`: a message after another one
- `LogEntry.Spelled`, `LogBatch.Spelled`, `Packet.Spelled`: the binary forms, with contexts in any order

## Main statements

- `carries_packet`: what a packet does to another one
- `Packet.spelled_encode`: the order of the keys is one of the orders
- `Packet.Spelled.decode`: any binary form of a packet is read as the packet
-/

namespace TelemetryGateway

open TelemetryGateway.Telemetry TelemetryGateway.Telemetry.Wire
open TelemetryGateway.Number (Single)

/-! ## Numbers that equal zero -/

/-- What a number is read as that is left out where it equals zero: negative zero loses its sign. -/
def Number.Single.settled (x : Single) : Single :=
  if x.isZero then .zero else x

theorem Number.Single.settled_eq_self {x : Single} (h : x.bits ≠ 0x80000000) : x.settled = x := by
  unfold settled
  split
  · next hzero =>
    obtain ⟨bits⟩ := x
    have hbits : bits = 0 := by simpa [isZero, h] using hzero
    rw [hbits]
    rfl
  · rfl

namespace Telemetry

/-- Processor use as it is read back. -/
def CpuUsage.settled (c : CpuUsage) : CpuUsage := { c with totalPercent := c.totalPercent.settled }

/-- A measurement as it is read back. -/
def MetricPoint.settled (p : MetricPoint) : MetricPoint :=
  { p with batteryLevelPercent := p.batteryLevelPercent.settled, cpu := p.cpu.map (·.settled) }

/-- Measurements as they are read back. -/
def MetricBatch.settled (b : MetricBatch) : MetricBatch := { b with points := b.points.map (·.settled) }

/-- A packet as it is read back. -/
def Packet.settled (p : Packet) : Packet := { p with metrics := p.metrics.map (·.settled) }

/-! ## One message after another -/

/-- A message that may be absent, after another one. -/
def overlayMessage {τ : Type} [Inhabited τ] (merge : τ → τ → τ) (old new : Option τ) : Option τ :=
  (new.map (merge (old.getD default))).or old

/-- A device after another one. -/
def Hardware.overlay (old new : Hardware) : Hardware where
  physicalCores := Wire.overlay old.physicalCores new.physicalCores
  logicalCpus := Wire.overlay old.logicalCpus new.logicalCpus
  l1CacheKb := Wire.overlay old.l1CacheKb new.l1CacheKb
  l2CacheKb := Wire.overlay old.l2CacheKb new.l2CacheKb
  l3CacheKb := Wire.overlay old.l3CacheKb new.l3CacheKb
  totalPhysicalMemory := Wire.overlay old.totalPhysicalMemory new.totalPhysicalMemory

/-- A sender after another one. -/
def Client.overlay (old new : Client) : Client where
  platform := Wire.overlay old.platform new.platform
  installationId := Wire.overlay old.installationId new.installationId
  journeyId := Wire.overlay old.journeyId new.journeyId
  sdkVersionPacked := Wire.overlay old.sdkVersionPacked new.sdkVersionPacked
  hostAppVersion := Wire.overlay old.hostAppVersion new.hostAppVersion
  hostAppName := Wire.overlay old.hostAppName new.hostAppName
  hardware := overlayMessage Hardware.overlay old.hardware new.hardware

/-- Measurements after others. -/
def MetricBatch.overlay (old new : MetricBatch) : MetricBatch where
  points := old.points ++ new.points

/-- Log entries after others. -/
def LogBatch.overlay (old new : LogBatch) : LogBatch where
  entries := old.entries ++ new.entries

/-- A packet after another one. -/
def Packet.overlay (old new : Packet) : Packet where
  schemaVersion := Wire.overlay old.schemaVersion new.schemaVersion
  metadata := overlayMessage Client.overlay old.metadata new.metadata
  metrics := overlayMessage MetricBatch.overlay old.metrics new.metrics
  logs := overlayMessage LogBatch.overlay old.logs new.logs

/-- A message after none is the message. -/
theorem overlayMessage_none {τ : Type} [Inhabited τ] {merge : τ → τ → τ}
    (h : ∀ m, merge default m = m) (m : Option τ) : overlayMessage merge none m = m := by
  cases m with
  | none => rfl
  | some m => simp [overlayMessage, h m]

theorem Hardware.default_overlay (m : Hardware) : Hardware.overlay default m = m := by
  show (⟨Wire.overlay default m.physicalCores, Wire.overlay default m.logicalCpus,
    Wire.overlay default m.l1CacheKb, Wire.overlay default m.l2CacheKb,
    Wire.overlay default m.l3CacheKb, Wire.overlay default m.totalPhysicalMemory⟩ : Hardware) = m
  simp only [overlay_default]

theorem Client.default_overlay (m : Client) : Client.overlay default m = m := by
  show (⟨Wire.overlay default m.platform, Wire.overlay default m.installationId,
    Wire.overlay default m.journeyId, Wire.overlay default m.sdkVersionPacked,
    Wire.overlay default m.hostAppVersion, Wire.overlay default m.hostAppName,
    overlayMessage Hardware.overlay none m.hardware⟩ : Client) = m
  simp only [overlay_default, overlayMessage_none Hardware.default_overlay]

theorem MetricBatch.default_overlay (b : MetricBatch) : MetricBatch.overlay default b = b := rfl

theorem LogBatch.default_overlay (b : LogBatch) : LogBatch.overlay default b = b := rfl

/-- A packet after the empty one is the packet. -/
theorem Packet.empty_overlay (p : Packet) : Packet.overlay {} p = p := by
  show (⟨Wire.overlay default p.schemaVersion, overlayMessage Client.overlay none p.metadata,
    overlayMessage MetricBatch.overlay none p.metrics,
    overlayMessage LogBatch.overlay none p.logs⟩ : Packet) = p
  simp only [overlay_default, overlayMessage_none Client.default_overlay,
    overlayMessage_none MetricBatch.default_overlay, overlayMessage_none LogBatch.default_overlay]

/-! ## Any order of contexts -/

/-- The bytes of a log entry, with the entries of its context in some order. -/
def LogEntry.Spelled (e : LogEntry) (bs : List UInt8) : Prop :=
  ∃ order : List (String × String), order.Perm e.context.entries ∧
    bs = Schema.write (entrySchema.take 5) e ++
      ((order.flatMap fun x => writeBytes 6 (Kind.entrySchema.write x)) ++
        Schema.write (entrySchema.drop 6) e)

/-- The bytes of log entries. -/
def LogBatch.Spelled (b : LogBatch) (bs : List UInt8) : Prop :=
  ∃ contents : List (List UInt8),
    List.Forall₂ (fun content e => LogEntry.Spelled e content) contents b.entries ∧
      bs = contents.flatMap (writeBytes 1)

/-- The bytes of a packet. -/
def Packet.Spelled (p : Packet) (bs : List UInt8) : Prop :=
  ∃ logs : List UInt8,
    (match p.logs with
      | none => logs = []
      | some b => ∃ content, b.Spelled content ∧ logs = writeBytes 4 content) ∧
    bs = Schema.write (packetSchema.take 3) p ++ logs

theorem Wire.Schema.write_append {σ : Type} (schema part : Schema σ) (m : σ) :
    Schema.write (schema ++ part) m = schema.write m ++ part.write m :=
  List.flatMap_append

/-- The order of the keys is one of the orders. -/
theorem LogEntry.spelled_write (e : LogEntry) : e.Spelled (entrySchema.write e) := by
  refine ⟨e.context.entries, .refl _, ?_⟩
  conv_lhs => rw [← List.take_append_drop 5 entrySchema, Schema.write_append]
  rfl

theorem LogBatch.spelled_write (b : LogBatch) : b.Spelled (logsSchema.write b) := by
  refine ⟨b.entries.map entrySchema.write, ?_, ?_⟩
  · rw [List.forall₂_map_left_iff, List.forall₂_same]
    exact fun e _ => e.spelled_write
  · rw [List.flatMap_map]
    exact List.append_nil _

theorem Packet.spelled_encode (p : Packet) : p.Spelled p.encode := by
  refine ⟨Schema.write (packetSchema.drop 3) p, ?_, ?_⟩
  rotate_left
  · rw [Packet.encode, ← Schema.write_append, List.take_append_drop]
  cases hlogs : p.logs with
  | none => simp [packetSchema, Schema.write, Slot.of, Kind.message, hlogs]
  | some b =>
    refine ⟨logsSchema.write b, b.spelled_write, ?_⟩
    simp [packetSchema, Schema.write, Slot.of, Kind.message, hlogs]

/-! ## What each message does -/

/-- A message that may be absent, as the model writes it. -/
theorem Wire.Kind.carries_message_write {τ : Type} [Inhabited τ] {schema : Schema τ} {number : Nat}
    (hvalid : schema.Valid) {m₀ : Option τ} {read : τ → τ}
    (h : ∀ m, schema.Carries (schema.write m) (m₀.getD default) (read m)) (m : Option τ) :
    (message schema).Carries number ((message schema).write number m) m₀ ((m.map read).or m₀) := by
  cases m with
  | none => exact Kind.Carries.nil m₀
  | some m => exact Kind.carries_message hvalid (h m)

namespace Wire

theorem carries_hardware (m₀ m : Hardware) :
    hardwareSchema.Carries (hardwareSchema.write m) m₀ (m₀.overlay m) := by
  -- What is left open for each slot, here and below, is that its field is a place in the message
  refine .write_cons (Slot.carries_of (Kind.carries_uint32 _ _) ?_) <|
    .write_cons (Slot.carries_of (Kind.carries_uint32 _ _) ?_) <|
    .write_cons (Slot.carries_of (Kind.carries_uint32 _ _) ?_) <|
    .write_cons (Slot.carries_of (Kind.carries_uint32 _ _) ?_) <|
    .write_cons (Slot.carries_of (Kind.carries_uint32 _ _) ?_) <|
    .write_cons (Slot.carries_of (Kind.carries_uint64 _ _) ?_) <| .nil _ <;>
    exact ⟨fun _ _ => rfl, fun _ _ _ => rfl, fun _ => rfl⟩

theorem carries_client (m₀ m : Client) :
    clientSchema.Carries (clientSchema.write m) m₀ (m₀.overlay m) := by
  refine .write_cons (Slot.carries_of (Kind.carries_term _ _) ?_) <|
    .write_cons (Slot.carries_of (Kind.carries_bytes _ _) ?_) <|
    .write_cons (Slot.carries_of (Kind.carries_bytes _ _) ?_) <|
    .write_cons (Slot.carries_of (Kind.carries_uint32 _ _) ?_) <|
    .write_cons (Slot.carries_of (Kind.carries_text _ _) ?_) <|
    .write_cons (Slot.carries_of (Kind.carries_text _ _) ?_) <|
    .write_cons (Slot.carries_of (Kind.carries_message_write (by decide) (carries_hardware _) _) ?_) <|
    .nil _ <;>
    exact ⟨fun _ _ => rfl, fun _ _ _ => rfl, fun _ => rfl⟩

theorem carries_cpu (c : CpuUsage) : cpuSchema.Carries (cpuSchema.write c) default c.settled := by
  refine .write_cons (Slot.carries_of (Kind.carries_single _ _) ?_) <|
    .write_cons (Slot.carries_of (Kind.carries_singles _ _) ?_) <| .nil _ <;>
    exact ⟨fun _ _ => rfl, fun _ _ _ => rfl, fun _ => rfl⟩

theorem carries_memory (m : MemoryUsage) : memorySchema.Carries (memorySchema.write m) default m := by
  have h : memorySchema.Carries (memorySchema.write m) default
      ⟨overlay default m.appResidentBytes, overlay default m.appVirtualBytes,
        overlay default m.systemFreeBytes, overlay default m.systemActiveBytes,
        overlay default m.systemInactiveBytes, overlay default m.systemWiredBytes⟩ := by
    refine .write_cons (Slot.carries_of (Kind.carries_uint64 _ _) ?_) <|
      .write_cons (Slot.carries_of (Kind.carries_uint64 _ _) ?_) <|
      .write_cons (Slot.carries_of (Kind.carries_uint64 _ _) ?_) <|
      .write_cons (Slot.carries_of (Kind.carries_uint64 _ _) ?_) <|
      .write_cons (Slot.carries_of (Kind.carries_uint64 _ _) ?_) <|
      .write_cons (Slot.carries_of (Kind.carries_uint64 _ _) ?_) <| .nil _ <;>
      exact ⟨fun _ _ => rfl, fun _ _ _ => rfl, fun _ => rfl⟩
  simpa only [overlay_default] using h

theorem carries_point (p : MetricPoint) :
    pointSchema.Carries (pointSchema.write p) default p.settled := by
  have h : pointSchema.Carries (pointSchema.write p) default
      ⟨overlay default p.clientTimestampMs, overlay default p.networkType,
        p.batteryLevelPercent.settled, (p.cpu.map (·.settled)).or none, (p.memory.map id).or none⟩ := by
    refine .write_cons (Slot.carries_of (Kind.carries_int64 _ _) ?_) <|
      .write_cons (Slot.carries_of (Kind.carries_term _ _) ?_) <|
      .write_cons (Slot.carries_of (Kind.carries_single _ _) ?_) <|
      .write_cons (Slot.carries_of (Kind.carries_message_write (by decide) carries_cpu _) ?_) <|
      .write_cons (Slot.carries_of (Kind.carries_message_write (by decide) carries_memory _) ?_) <| .nil _ <;>
      exact ⟨fun _ _ => rfl, fun _ _ _ => rfl, fun _ => rfl⟩
  simpa only [MetricPoint.settled, overlay_default, Option.or_none, Option.map_id, id] using h

theorem carries_metrics (b₀ b : MetricBatch) :
    metricsSchema.Carries (metricsSchema.write b) b₀ (b₀.overlay b.settled) := by
  have hpoints : List.Forall₂ (fun content p => pointSchema.Carries content default p)
      (b.points.map pointSchema.write) (b.points.map (·.settled)) := by
    rw [List.forall₂_map_left_iff, List.forall₂_map_right_iff, List.forall₂_same]
    exact fun p _ => carries_point p
  have hbytes : metricsSchema.write b =
      (b.points.map pointSchema.write).flatMap (writeBytes 1) ++ [] := by
    rw [List.flatMap_map]
    rfl
  rw [hbytes]
  refine .cons (Slot.carries_of (Kind.carries_messages (by decide) hpoints _) ?_) (.nil _)
  exact ⟨fun _ _ => rfl, fun _ _ _ => rfl, fun _ => rfl⟩

/-- A log entry is read back, whatever the order in its context. -/
theorem carries_entry {e : LogEntry} {bs : List UInt8} (h : e.Spelled bs) :
    entrySchema.Carries bs default e := by
  obtain ⟨order, hperm, rfl⟩ := h
  -- The entries of the context may come in any order, so the slots around it are taken apart
  have hcontext : Attributes.empty.insertAll order = e.context := Attributes.ofList_perm hperm
  have hfront : Schema.Carries (entrySchema.take 5) (Schema.write (entrySchema.take 5) e) default
      { (default : LogEntry) with
        clientTimestampMs := overlay default e.clientTimestampMs
        networkType := overlay default e.networkType
        level := overlay default e.level
        tag := overlay default e.tag
        message := overlay default e.message } := by
    refine .write_cons (Slot.carries_of (Kind.carries_int64 _ _) ?_) <|
      .write_cons (Slot.carries_of (Kind.carries_term _ _) ?_) <|
      .write_cons (Slot.carries_of (Kind.carries_term _ _) ?_) <|
      .write_cons (Slot.carries_of (Kind.carries_text _ _) ?_) <|
      .write_cons (Slot.carries_of (Kind.carries_text _ _) ?_) <| .nil _ <;>
      exact ⟨fun _ _ => rfl, fun _ _ _ => rfl, fun _ => rfl⟩
  have hback (m₀ : LogEntry) : Schema.Carries (entrySchema.drop 5)
      ((order.flatMap fun x => writeBytes 6 (Kind.entrySchema.write x)) ++
        Schema.write (entrySchema.drop 6) e) m₀
      { m₀ with
        context := m₀.context.insertAll order
        stackTrace := e.stackTrace.or m₀.stackTrace
        threadName := overlay m₀.threadName e.threadName
        errorCode := overlay m₀.errorCode e.errorCode } := by
    refine .cons (Slot.carries_of (Kind.carries_attributes order _) ?_) <|
      .write_cons (Slot.carries_of (Kind.carries_optionalText _ _) ?_) <|
      .write_cons (Slot.carries_of (Kind.carries_text _ _) ?_) <|
      .write_cons (Slot.carries_of (Kind.carries_text _ _) ?_) <| .nil _ <;>
      exact ⟨fun _ _ => rfl, fun _ _ _ => rfl, fun _ => rfl⟩
  -- From the defaults on, every field is what was written
  have h : Schema.Carries (entrySchema.take 5 ++ entrySchema.drop 5) _ default
      ⟨overlay default e.clientTimestampMs, overlay default e.networkType, overlay default e.level,
        overlay default e.tag, overlay default e.message, Attributes.empty.insertAll order,
        e.stackTrace.or none, overlay default e.threadName, overlay default e.errorCode⟩ :=
    hfront.append (hback _)
  simpa only [List.take_append_drop, overlay_default, hcontext, Option.or_none] using h

theorem carries_logs {b : LogBatch} {bs : List UInt8} (h : b.Spelled bs) (b₀ : LogBatch) :
    logsSchema.Carries bs b₀ (b₀.overlay b) := by
  obtain ⟨contents, hspelled, rfl⟩ := h
  have hentries : List.Forall₂ (fun content e => entrySchema.Carries content default e) contents
      b.entries := hspelled.imp fun _ _ => carries_entry
  rw [← List.append_nil (contents.flatMap _)]
  refine .cons (Slot.carries_of (Kind.carries_messages (by decide) hentries _) ?_) (.nil _)
  exact ⟨fun _ _ => rfl, fun _ _ _ => rfl, fun _ => rfl⟩

/-- What a packet does to another one. -/
theorem carries_packet {p : Packet} {bs : List UInt8} (h : p.Spelled bs) (p₀ : Packet) :
    packetSchema.Carries bs p₀ (p₀.overlay p.settled) := by
  obtain ⟨logs, hlogs, rfl⟩ := h
  have hfront : Schema.Carries (packetSchema.take 3) (Schema.write (packetSchema.take 3) p) p₀
      { p₀ with
        schemaVersion := overlay p₀.schemaVersion p.schemaVersion
        metadata := (p.metadata.map fun c => (p₀.metadata.getD default).overlay c).or p₀.metadata
        metrics := (p.metrics.map fun b => (p₀.metrics.getD default).overlay b.settled).or p₀.metrics } := by
    refine .write_cons (Slot.carries_of (Kind.carries_uint32 _ _) ?_) <|
      .write_cons (Slot.carries_of (Kind.carries_message_write (by decide) (carries_client _) _) ?_) <|
      .write_cons (Slot.carries_of (Kind.carries_message_write (by decide) (carries_metrics _) _) ?_) <|
      .nil _ <;>
      exact ⟨fun _ _ => rfl, fun _ _ _ => rfl, fun _ => rfl⟩
  -- The logs are the last slot, the only one with several forms
  have hlast : (Kind.message logsSchema).Carries 4 logs p₀.logs
      (overlayMessage LogBatch.overlay p₀.logs p.logs) := by
    cases hp : p.logs with
    | none =>
      simp only [hp] at hlogs
      rw [hlogs]
      exact Kind.Carries.nil _
    | some b =>
      simp only [hp] at hlogs
      obtain ⟨content, hspelled, rfl⟩ := hlogs
      exact Kind.carries_message (by decide) (carries_logs hspelled _)
  have hback (m₀ : Packet) (hm₀ : m₀.logs = p₀.logs) : Schema.Carries (packetSchema.drop 3) (logs ++ []) m₀
      { m₀ with logs := overlayMessage LogBatch.overlay p₀.logs p.logs } := by
    refine .cons (Slot.carries_of (hm₀ ▸ hlast) ?_) (.nil _)
    exact ⟨fun _ _ => rfl, fun _ _ _ => rfl, fun _ => rfl⟩
  have h : Schema.Carries (packetSchema.take 3 ++ packetSchema.drop 3) _ p₀ _ :=
    hfront.append (hback _ rfl)
  rw [List.take_append_drop, List.append_nil] at h
  simpa only [Packet.overlay, Packet.settled, overlayMessage, Option.map_map, Function.comp_def] using h

end Wire

/-! ## Reading packets -/

/-- Any binary form of a packet, read behind another packet. -/
theorem Packet.Spelled.merge {p : Packet} {bs : List UInt8} (h : p.Spelled bs)
    (hlength : bs.length < 2 ^ 64) (depth : Nat) (p₀ : Packet) :
    packetSchema.merge depth bs p₀ = some (p₀.overlay p.settled) :=
  Schema.merge_of_carries (by decide) (carries_packet h p₀) hlength depth

theorem Packet.Spelled.decode {p : Packet} {bs : List UInt8} (h : p.Spelled bs)
    (hlength : bs.length < 2 ^ 64) : Packet.decode bs = some p.settled := by
  rw [Packet.decode, h.merge hlength, Packet.empty_overlay]

end Telemetry

end TelemetryGateway
