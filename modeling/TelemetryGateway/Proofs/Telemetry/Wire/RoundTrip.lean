import Mathlib
import TelemetryGateway.Proofs.Telemetry.Wire.Message

/-!
# Packets survive the wire

Every packet is read back from its binary form, in whatever order the contexts of its log entries are written.
Only the sign of a zero is lost, where the number may be left out.

## Main definitions

- `Packet.singulars`: the numbers that may be left out

## Main statements

- `Packet.settled_eq_self`: what is read back is the packet, unless one of these numbers is a negative zero
- `Packet.decode_spelled`: reading back
-/

namespace TelemetryGateway.Telemetry

open TelemetryGateway.Number (Single)
open Wire

/-- The single-precision numbers of a packet that are left out where they equal zero. -/
def Packet.singulars (p : Packet) : List Single :=
  match p.metrics with
  | none => []
  | some b => b.points.flatMap fun point =>
      point.batteryLevelPercent :: point.cpu.toList.map (·.totalPercent)

theorem MetricPoint.settled_eq_self {p : MetricPoint} (hbattery : p.batteryLevelPercent.bits ≠ 0x80000000)
    (hcpu : ∀ c ∈ p.cpu, c.totalPercent.bits ≠ 0x80000000) : p.settled = p := by
  have hcpu' : p.cpu.map (·.settled) = p.cpu := by
    cases h : p.cpu with
    | none => rfl
    | some c =>
      rw [Option.map_some, CpuUsage.settled, Single.settled_eq_self (hcpu c h)]
  rw [MetricPoint.settled, hcpu', Single.settled_eq_self hbattery]

/-- What is read back is the packet, unless one of these numbers is a negative zero. -/
theorem Packet.settled_eq_self {p : Packet} (h : ∀ x ∈ p.singulars, x.bits ≠ 0x80000000) :
    p.settled = p := by
  have hmetrics : p.metrics.map (·.settled) = p.metrics := by
    cases hb : p.metrics with
    | none => rfl
    | some b =>
      simp only [Packet.singulars, hb, List.mem_flatMap, List.mem_cons, List.mem_map,
        Option.mem_toList] at h
      -- Each measurement is its own reading
      have hpoints : b.points.map (·.settled) = b.points :=
        calc b.points.map (·.settled) = b.points.map id :=
              List.map_congr_left fun point hpoint =>
                MetricPoint.settled_eq_self (h _ ⟨point, hpoint, .inl rfl⟩)
                  fun c hc => h _ ⟨point, hpoint, .inr ⟨c, hc, rfl⟩⟩
          _ = b.points := List.map_id b.points
      rw [Option.map_some, MetricBatch.settled, hpoints]
  rw [Packet.settled, hmetrics]

/-- **Packets survive the wire.** A packet is read back from each of its binary forms, the one the model
writes among them, and is the same but for the sign of zeros that may be left out. -/
theorem Packet.decode_spelled (p : Packet) :
    p.Spelled p.encode ∧
      (∀ bs, p.Spelled bs → bs.length < 2 ^ 63 → Packet.decode bs = some p.settled) ∧
      ((∀ x ∈ p.singulars, x.bits ≠ 0x80000000) → p.settled = p) :=
  ⟨p.spelled_encode, fun _ h hlength => h.decode (hlength.trans (by decide)), Packet.settled_eq_self⟩

/-- A log entry with a context of two entries and an empty text that is not absent. -/
def sampleEntry : LogEntry where
  context := .ofList [("a", ""), ("b", "c")]
  stackTrace := some ""

/-- A packet with an unknown platform, a sign of zero that is lost and others that are kept, a payload of no
number and empty messages. -/
def samplePacket : Packet where
  metadata := some { platform := ⟨-1⟩, hardware := some {} }
  metrics := some ⟨[{
    batteryLevelPercent := ⟨0x80000000⟩
    cpu := some { corePercents := [⟨0x80000000⟩, ⟨0x7FC00001⟩] }
    memory := some {} }]⟩
  logs := some ⟨[sampleEntry]⟩

/-- The binary form of `sampleEntry` with its context turned round. -/
def sampleEntryTurned : List UInt8 :=
  [0x32, 6, 0x0A, 1, 98, 0x12, 1, 99, 0x32, 3, 0x0A, 1, 97, 0x3A, 0]

theorem spelled_sampleEntryTurned : sampleEntry.Spelled sampleEntryTurned :=
  ⟨[("b", "c"), ("a", "")], by decide +kernel, by decide +kernel⟩

theorem decode_spelled_sample :
    Packet.decode (Schema.write (packetSchema.take 3) samplePacket ++
        writeBytes 4 (writeBytes 1 sampleEntryTurned)) = some samplePacket.settled ∧
      Packet.settled { metrics := some ⟨[{ batteryLevelPercent := ⟨0x42C80000⟩ }]⟩ } =
        { metrics := some ⟨[{ batteryLevelPercent := ⟨0x42C80000⟩ }]⟩ } := by
  have hlogs : LogBatch.Spelled ⟨[sampleEntry]⟩ (writeBytes 1 sampleEntryTurned) :=
    ⟨[sampleEntryTurned], .cons spelled_sampleEntryTurned .nil, (List.append_nil _).symm⟩
  exact ⟨(Packet.decode_spelled samplePacket).2.1 _ ⟨_, ⟨_, hlogs, rfl⟩, rfl⟩ (by decide +kernel),
    (Packet.decode_spelled _).2.2 (by decide)⟩

end TelemetryGateway.Telemetry
