import TelemetryGateway.Ingest.Identifier
import TelemetryGateway.Telemetry.Wire.Message

/-!
# Validation of packets

A packet has to name its sender, stay within a size and keep its log entries small. The size is that of
the binary form, however the packet came in.

## Main definitions

- `Limits`: the greatest size and the greatest count of attributes
- `ValidationError`: why a packet is refused
- `validate`: the sender of a packet, or the first rule that it breaks
-/

namespace TelemetryGateway.Ingest

open TelemetryGateway.Telemetry

/-- The greatest size of a packet where none is configured. -/
def defaultMaxPacketBytes : Nat := 1500

/-- The greatest count of attributes of a log entry where none is configured. -/
def defaultMaxContextAttributes : Nat := 6

/-- The bounds that packets keep. -/
structure Limits where
  maxPacketBytes : Nat
  maxContextAttributes : Nat
deriving DecidableEq, Repr

/-- The bounds of a configuration, in which zero stands for the default. -/
def Limits.create (maxPacketBytes maxContextAttributes : Nat) : Limits where
  maxPacketBytes := if maxPacketBytes = 0 then defaultMaxPacketBytes else maxPacketBytes
  maxContextAttributes :=
    if maxContextAttributes = 0 then defaultMaxContextAttributes else maxContextAttributes

/-- Why a packet is refused. -/
inductive ValidationError where
  | missingMetadata
  | packetTooLarge (size max : Nat)
  | identifier (e : IdentifierError)
  | tooManyContextAttributes (count max : Nat)
deriving DecidableEq, Repr

namespace ValidationError

def reason : ValidationError → String
  | .missingMetadata => "missing_metadata"
  | .packetTooLarge _ _ => "packet_too_large"
  | .identifier _ => "invalid_identifier"
  | .tooManyContextAttributes _ _ => "too_many_context_attributes"

def message : ValidationError → String
  | .missingMetadata => "missing metadata"
  | .packetTooLarge size max =>
    "packet size " ++ toString size ++ " bytes exceeds maximum " ++ toString max ++ " bytes"
  | .identifier e => e.message
  | .tooManyContextAttributes count max =>
    "log entry context has " ++ toString count ++ " attributes, maximum allowed is " ++ toString max

end ValidationError

def logEntries (p : Packet) : List LogEntry :=
  match p.logs with
  | some batch => batch.entries
  | none => []

def metricPoints (p : Packet) : List MetricPoint :=
  match p.metrics with
  | some batch => batch.points
  | none => []

theorem logEntries_eq (p : Packet) : logEntries p = p.logs.elim [] (·.entries) := by
  unfold logEntries
  cases p.logs <;> rfl

theorem metricPoints_eq (p : Packet) : metricPoints p = p.metrics.elim [] (·.points) := by
  unfold metricPoints
  cases p.metrics <;> rfl

/-- An identifier, checked as a part of a packet. -/
def requireIdentifier (field : IdentifierField) (bytes : List UInt8) : Except ValidationError Unit :=
  (checkIdentifier field bytes).mapError .identifier

/-- The first log entry with more attributes than a bound, by its count of attributes. -/
def firstOversized? (max : Nat) (entries : List LogEntry) : Option Nat :=
  (entries.find? fun e => max < e.context.size).map fun e => e.context.size

/-- The sender of a packet that keeps all bounds, or the first rule that it breaks. -/
def validate (limits : Limits) (p : Packet) : Except ValidationError Client :=
  match p.metadata with
  | none => .error .missingMetadata
  | some client =>
    -- The size comes before the identifiers, and those before the attributes of the log entries
    if limits.maxPacketBytes < p.encodedLength then
      .error (.packetTooLarge p.encodedLength limits.maxPacketBytes)
    else do
      requireIdentifier .installation client.installationId
      requireIdentifier .journey client.journeyId
      match firstOversized? limits.maxContextAttributes (logEntries p) with
      | some count => .error (.tooManyContextAttributes count limits.maxContextAttributes)
      | none => .ok client

end TelemetryGateway.Ingest
