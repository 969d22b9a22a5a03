import Mathlib
import TelemetryGateway.Proofs.Telemetry.Wire.RoundTrip

/-!
# One packet behind another

The bytes of two packets, one behind the other, are the bytes of one packet: what the second says counts, what it
does not say is taken from the first, and lists grow. The second packet is read into a message that is not empty, at each
level of it.

## Main statements

- `Schema.Carries.merge_append`: what stands in front is read, and the rest is read into the result
- `overlayMessage_eq_merge`: a message that is in both is merged, and one that is in one of them is kept
- `Packet.decode_append`: the packet of two packets
-/

namespace TelemetryGateway.Telemetry

open Wire

/-! ## Reading what stands in front -/

/-- A run of fields is read, and the rest is read into the result. -/
theorem Wire.Schema.merge_fields {σ : Type} {schema : Schema σ} {fs : List Field} {depth : Nat} {m m' : σ}
    (hsound : ∀ f ∈ fs, f.Sound schema.byLength) (hfold : fs.foldlM (schema.mergeField depth) m = some m')
    (rest : List UInt8) : schema.merge depth (fs.flatMap Field.write ++ rest) m = schema.merge depth rest m' := by
  induction fs generalizing m with
  | nil =>
    cases hfold
    rfl
  | cons f fs ih =>
    obtain ⟨hfirst, hrest⟩ := List.forall_mem_cons.1 hsound
    rw [List.foldlM_cons] at hfold
    obtain ⟨m₁, hstep, hfold⟩ := Option.bind_eq_some_iff.1 hfold
    rw [List.flatMap_cons, List.append_assoc, schema.merge_append (.plain hfirst.spelled), hstep, Option.bind_some]
    exact ih hrest hfold

/-- Bytes that carry a message leave the rest to be read into what they carry it to. -/
theorem Wire.Schema.Carries.merge_append {σ : Type} {schema : Schema σ} {bs : List UInt8} {m m' : σ}
    (hvalid : schema.Valid) (h : schema.Carries bs m m') (hlength : bs.length < 2 ^ 64) (depth : Nat)
    (rest : List UInt8) : schema.merge depth (bs ++ rest) m = schema.merge depth rest m' := by
  obtain ⟨fs, rfl, hread⟩ := h.exists_fields hvalid fun _ h => h
  obtain ⟨hsound, hfold⟩ := hread hlength
  exact Schema.merge_fields hsound (hfold depth) rest

/-! ## What two packets say together -/

/-- A message that is in both is merged, and one that is in one of them is kept. -/
theorem overlayMessage_eq_merge {τ : Type} [Inhabited τ] {merge : τ → τ → τ} (h : ∀ m, merge default m = m)
    (old new : Option τ) : overlayMessage merge old new = Option.merge merge old new := by
  cases old with
  | none => simpa using overlayMessage_none h new
  | some a =>
    cases new with
    | none => rfl
    | some b => rfl

theorem Client.overlay_hardware (old new : Client) :
    (old.overlay new).hardware = Option.merge Hardware.overlay old.hardware new.hardware :=
  overlayMessage_eq_merge Hardware.default_overlay _ _

theorem Packet.overlay_eq (old new : Packet) : old.overlay new =
    { schemaVersion := Wire.overlay old.schemaVersion new.schemaVersion
      metadata := Option.merge Client.overlay old.metadata new.metadata
      metrics := Option.merge MetricBatch.overlay old.metrics new.metrics
      logs := Option.merge LogBatch.overlay old.logs new.logs } := by
  rw [← overlayMessage_eq_merge Client.default_overlay, ← overlayMessage_eq_merge MetricBatch.default_overlay,
    ← overlayMessage_eq_merge LogBatch.default_overlay]
  rfl

/-- **Concatenation is merge.** The bytes of two packets, each in any of its binary forms, one behind the other, are
read as what they say together. Lengths on the wire have sixty-four bits. -/
theorem Packet.decode_append (p q : Packet) :
    (p.Spelled p.encode ∧ q.Spelled q.encode) ∧
      (∀ bs bs', p.Spelled bs → q.Spelled bs' → bs.length < 2 ^ 64 → bs'.length < 2 ^ 64 →
        Packet.decode (bs ++ bs') = some
          { schemaVersion := Wire.overlay p.schemaVersion q.schemaVersion
            metadata := Option.merge Client.overlay p.metadata q.metadata
            metrics := Option.merge MetricBatch.overlay p.settled.metrics q.settled.metrics
            logs := Option.merge LogBatch.overlay p.logs q.logs }) ∧
      (∀ old new : Client,
        (old.overlay new).hardware = Option.merge Hardware.overlay old.hardware new.hardware) ∧
      ((∀ x ∈ p.singulars ++ q.singulars, x.bits ≠ 0x80000000) → p.settled = p ∧ q.settled = q) := by
  refine ⟨⟨p.spelled_encode, q.spelled_encode⟩, ?_, Client.overlay_hardware, ?_⟩
  · intro bs bs' hp hq hlength hlength'
    rw [Packet.decode, (carries_packet hp {}).merge_append (by decide) hlength, Packet.empty_overlay,
      hq.merge hlength', Packet.overlay_eq]
    rfl
  · intro h
    obtain ⟨hp, hq⟩ := List.forall_mem_append.1 h
    exact ⟨Packet.settled_eq_self hp, Packet.settled_eq_self hq⟩

/-- A packet with a sender, a device and one measurement, in which the sign of a zero is lost. -/
def earlierPacket : Packet where
  schemaVersion := 3
  metadata := some { platform := ⟨1⟩, hostAppName := "a", hardware := some { physicalCores := 4, logicalCpus := 8 } }
  metrics := some ⟨[{ batteryLevelPercent := ⟨0x80000000⟩ }]⟩

/-- A packet that corrects some of this, adds a measurement and has no log entries, but says so. -/
def laterPacket : Packet where
  metadata := some { hostAppName := "b", hardware := some { logicalCpus := 16 } }
  metrics := some ⟨[{ clientTimestampMs := -1 }]⟩
  logs := some ⟨[]⟩

theorem decode_append_correction :
    Packet.decode (earlierPacket.encode ++ laterPacket.encode) = some
        { schemaVersion := 3
          metadata := some
            { platform := ⟨1⟩, hostAppName := "b", hardware := some { physicalCores := 4, logicalCpus := 16 } }
          metrics := some ⟨[{}, { clientTimestampMs := -1 }]⟩
          logs := some ⟨[]⟩ } ∧
      laterPacket.settled = laterPacket := by
  obtain ⟨⟨hearlier, hlater⟩, hdecode, -, -⟩ := Packet.decode_append earlierPacket laterPacket
  obtain ⟨-, -, -, hsettled⟩ := Packet.decode_append laterPacket laterPacket
  refine ⟨?_, (hsettled (by decide)).1⟩
  rw [hdecode _ _ hearlier hlater (by decide +kernel) (by decide +kernel)]
  decide

end TelemetryGateway.Telemetry
