import TelemetryGateway.Telemetry.Packet

/-!
# The messages of a packet

## Main definitions

- `MessageType`: the types of messages that stand in a packet, at any depth
- `MessageType.Content`: what a message of a type says
-/

namespace TelemetryGateway.Telemetry

/-- The types of messages that stand in a packet, the packet itself among them. -/
inductive MessageType where
  | packet
  | client
  | hardware
  | metrics
  | point
  | cpu
  | memory
  | logs
  | entry
deriving DecidableEq, Repr

/-- What a message of a type says. -/
abbrev MessageType.Content : MessageType → Type
  | .packet => Packet
  | .client => Client
  | .hardware => Hardware
  | .metrics => MetricBatch
  | .point => MetricPoint
  | .cpu => CpuUsage
  | .memory => MemoryUsage
  | .logs => LogBatch
  | .entry => LogEntry

end TelemetryGateway.Telemetry
