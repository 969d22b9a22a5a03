import TelemetryGateway.Number.Real
import TelemetryGateway.Telemetry.Attributes
import TelemetryGateway.Telemetry.Vocabulary
import TelemetryGateway.Text.Hex

/-!
# Telemetry packets

What a client sends in one request: who it is, a batch of measurements and a batch of log entries. A
batch that is absent is not the same as an empty one.

## Main definitions

- `Packet`: the whole
- `Client`, `Hardware`: the sender and its device
- `MetricPoint`, `CpuUsage`, `MemoryUsage`: one measurement
- `LogEntry`: one line of a log
- `Packet.clientKey`: the text under which the requests of one installation are counted
-/

namespace TelemetryGateway.Telemetry

open TelemetryGateway.Number

/-- The device that a client runs on. -/
structure Hardware where
  physicalCores : UInt32 := 0
  logicalCpus : UInt32 := 0
  l1CacheKb : UInt32 := 0
  l2CacheKb : UInt32 := 0
  l3CacheKb : UInt32 := 0
  totalPhysicalMemory : UInt64 := 0
deriving DecidableEq, Inhabited

/-- The sender of a packet. -/
structure Client where
  platform : Term platforms := .unspecified
  installationId : List UInt8 := []
  journeyId : List UInt8 := []
  sdkVersionPacked : UInt32 := 0
  hostAppVersion : String := ""
  hostAppName : String := ""
  hardware : Option Hardware := none
deriving DecidableEq, Inhabited

/-- Processor use at one moment. -/
structure CpuUsage where
  totalPercent : Single := .zero
  corePercents : List Single := []
deriving DecidableEq, Inhabited

/-- Memory use at one moment. -/
structure MemoryUsage where
  appResidentBytes : UInt64 := 0
  appVirtualBytes : UInt64 := 0
  systemFreeBytes : UInt64 := 0
  systemActiveBytes : UInt64 := 0
  systemInactiveBytes : UInt64 := 0
  systemWiredBytes : UInt64 := 0
deriving DecidableEq, Inhabited

/-- One measurement. -/
structure MetricPoint where
  clientTimestampMs : Int64 := 0
  networkType : Term networkTypes := .unspecified
  batteryLevelPercent : Single := .zero
  cpu : Option CpuUsage := none
  memory : Option MemoryUsage := none
deriving DecidableEq, Inhabited

/-- The measurements of a packet. -/
structure MetricBatch where
  points : List MetricPoint := []
deriving DecidableEq, Inhabited

/-- One line of a log. -/
structure LogEntry where
  clientTimestampMs : Int64 := 0
  networkType : Term networkTypes := .unspecified
  level : Term logLevels := .unspecified
  tag : String := ""
  message : String := ""
  context : Attributes := .empty
  stackTrace : Option String := none
  threadName : String := ""
  errorCode : String := ""
deriving DecidableEq, Inhabited

/-- The log entries of a packet. -/
structure LogBatch where
  entries : List LogEntry := []
deriving DecidableEq, Inhabited

/-- What a client sends in one request. -/
structure Packet where
  schemaVersion : UInt32 := 0
  metadata : Option Client := none
  metrics : Option MetricBatch := none
  logs : Option LogBatch := none
deriving DecidableEq, Inhabited

/-- The text under which the requests of one installation are counted: its identifier in hexadecimal,
or nothing where the packet does not say. -/
def Packet.clientKey (p : Packet) : String :=
  match p.metadata with
  | some client => Text.Hex.encode client.installationId
  | none => ""

end TelemetryGateway.Telemetry
