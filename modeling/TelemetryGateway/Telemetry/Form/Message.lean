import TelemetryGateway.Telemetry.Form.Kind
import TelemetryGateway.Json.Value

/-!
# Packets in JSON

The names and kinds of the fields of every message, and with them the JSON form of a packet. The form
that is written has every field under its name in snake case.

## Main definitions

- `Packet.ofJson`: the packet of a JSON text
- `Packet.toJson`: the JSON form of a packet, field by field
-/

namespace TelemetryGateway.Telemetry

open TelemetryGateway.Json (Value)
open TelemetryGateway.Text (Base64.encode)

namespace Form

def hardwareSchema : Schema Hardware :=
  [ .of "physical_cores" uint32 fun v m => { m with physicalCores := v },
    .of "logical_cpus" uint32 fun v m => { m with logicalCpus := v },
    .of "l1_cache_kb" uint32 fun v m => { m with l1CacheKb := v },
    .of "l2_cache_kb" uint32 fun v m => { m with l2CacheKb := v },
    .of "l3_cache_kb" uint32 fun v m => { m with l3CacheKb := v },
    .of "total_physical_memory" uint64 fun v m => { m with totalPhysicalMemory := v } ]

def clientSchema : Schema Client :=
  [ .of "platform" (term platforms) fun v m => { m with platform := v },
    .of "installation_id" bytes fun v m => { m with installationId := v },
    .of "journey_id" bytes fun v m => { m with journeyId := v },
    .of "sdk_version_packed" uint32 fun v m => { m with sdkVersionPacked := v },
    .of "host_app_version" text fun v m => { m with hostAppVersion := v },
    .of "host_app_name" text fun v m => { m with hostAppName := v },
    .of "device_hardware" (optional (message hardwareSchema)) fun v m => { m with hardware := v } ]

def cpuSchema : Schema CpuUsage :=
  [ .of "total_usage_percent" single fun v m => { m with totalPercent := v },
    .of "core_usage_percent" (list single) fun v m => { m with corePercents := v } ]

def memorySchema : Schema MemoryUsage :=
  [ .of "app_resident_bytes" uint64 fun v m => { m with appResidentBytes := v },
    .of "app_virtual_bytes" uint64 fun v m => { m with appVirtualBytes := v },
    .of "system_free_bytes" uint64 fun v m => { m with systemFreeBytes := v },
    .of "system_active_bytes" uint64 fun v m => { m with systemActiveBytes := v },
    .of "system_inactive_bytes" uint64 fun v m => { m with systemInactiveBytes := v },
    .of "system_wired_bytes" uint64 fun v m => { m with systemWiredBytes := v } ]

def pointSchema : Schema MetricPoint :=
  [ .of "client_timestamp_ms" int64 fun v m => { m with clientTimestampMs := v },
    .of "network_type" (term networkTypes) fun v m => { m with networkType := v },
    .of "battery_level_percent" single fun v m => { m with batteryLevelPercent := v },
    .of "cpu" (optional (message cpuSchema)) fun v m => { m with cpu := v },
    .of "memory" (optional (message memorySchema)) fun v m => { m with memory := v } ]

def metricsSchema : Schema MetricBatch :=
  [ .of "points" (list (message pointSchema)) fun v m => { m with points := v } ]

def entrySchema : Schema LogEntry :=
  [ .of "client_timestamp_ms" int64 fun v m => { m with clientTimestampMs := v },
    .of "network_type" (term networkTypes) fun v m => { m with networkType := v },
    .of "level" (term logLevels) fun v m => { m with level := v },
    .of "tag" text fun v m => { m with tag := v },
    .of "message" text fun v m => { m with message := v },
    .of "context" attributes fun v m => { m with context := v },
    .of "stack_trace" (optional text) fun v m => { m with stackTrace := v },
    .of "thread_name" text fun v m => { m with threadName := v },
    .of "error_code" text fun v m => { m with errorCode := v } ]

def logsSchema : Schema LogBatch :=
  [ .of "entries" (list (message entrySchema)) fun v m => { m with entries := v } ]

def packetSchema : Schema Packet :=
  [ .of "schema_version" uint32 fun v m => { m with schemaVersion := v },
    .of "metadata" (optional (message clientSchema)) fun v m => { m with metadata := v },
    .of "metrics" (optional (message metricsSchema)) fun v m => { m with metrics := v },
    .of "logs" (optional (message logsSchema)) fun v m => { m with logs := v } ]

/-- The packet of a JSON text: its value has to be a packet, and nothing may follow it. -/
def readPacket (reading : Json.Reading) : Except Fault Packet := do
  let p ← message packetSchema reading.tree
  if reading.complete then .ok p else .error .form

end Form

/-- The value of something that may be absent. -/
def optionalValue {α : Type} (value : α → Value) : Option α → Value
  | some x => value x
  | none => .null

/-- A term by its name, or by its code if it has none. -/
def Term.toJson {v : Vocabulary} (t : Term v) : Value :=
  match t.name? with
  | some name => .string name
  | none => .int t.code.toInt

def natural32 (n : UInt32) : Value := .int n.toNat

def natural64 (n : UInt64) : Value := .int n.toNat

/-- A byte string in base64. -/
def binary (b : List UInt8) : Value := .string (Base64.encode b)

/-- Texts under texts, as an object with the entries in their order. -/
def entriesToJson (entries : List (String × String)) : Value :=
  .object (entries.map fun e => (e.1, .string e.2))

def Hardware.toJson (h : Hardware) : Value :=
  .object
    [ ("physical_cores", natural32 h.physicalCores),
      ("logical_cpus", natural32 h.logicalCpus),
      ("l1_cache_kb", natural32 h.l1CacheKb),
      ("l2_cache_kb", natural32 h.l2CacheKb),
      ("l3_cache_kb", natural32 h.l3CacheKb),
      ("total_physical_memory", natural64 h.totalPhysicalMemory) ]

def Client.toJson (c : Client) : Value :=
  .object
    [ ("platform", c.platform.toJson),
      ("installation_id", binary c.installationId),
      ("journey_id", binary c.journeyId),
      ("sdk_version_packed", natural32 c.sdkVersionPacked),
      ("host_app_version", .string c.hostAppVersion),
      ("host_app_name", .string c.hostAppName),
      ("device_hardware", optionalValue Hardware.toJson c.hardware) ]

def CpuUsage.toJson (c : CpuUsage) : Value :=
  .object
    [ ("total_usage_percent", .single c.totalPercent),
      ("core_usage_percent", .array (c.corePercents.map .single)) ]

def MemoryUsage.toJson (m : MemoryUsage) : Value :=
  .object
    [ ("app_resident_bytes", natural64 m.appResidentBytes),
      ("app_virtual_bytes", natural64 m.appVirtualBytes),
      ("system_free_bytes", natural64 m.systemFreeBytes),
      ("system_active_bytes", natural64 m.systemActiveBytes),
      ("system_inactive_bytes", natural64 m.systemInactiveBytes),
      ("system_wired_bytes", natural64 m.systemWiredBytes) ]

def MetricPoint.toJson (p : MetricPoint) : Value :=
  .object
    [ ("client_timestamp_ms", .int p.clientTimestampMs.toInt),
      ("network_type", p.networkType.toJson),
      ("battery_level_percent", .single p.batteryLevelPercent),
      ("cpu", optionalValue CpuUsage.toJson p.cpu),
      ("memory", optionalValue MemoryUsage.toJson p.memory) ]

def MetricBatch.toJson (b : MetricBatch) : Value :=
  .object [("points", .array (b.points.map MetricPoint.toJson))]

/-- The JSON form of a log entry, with the entries of its context in an order. -/
def LogEntry.toJsonIn (order : List (String × String)) (e : LogEntry) : Value :=
  .object
    [ ("client_timestamp_ms", .int e.clientTimestampMs.toInt),
      ("network_type", e.networkType.toJson),
      ("level", e.level.toJson),
      ("tag", .string e.tag),
      ("message", .string e.message),
      ("context", entriesToJson order),
      ("stack_trace", optionalValue .string e.stackTrace),
      ("thread_name", .string e.threadName),
      ("error_code", .string e.errorCode) ]

/-- The JSON form of a log entry, with its context in the order of the keys. -/
def LogEntry.toJson (e : LogEntry) : Value := e.toJsonIn e.context.entries

def LogBatch.toJson (b : LogBatch) : Value :=
  .object [("entries", .array (b.entries.map LogEntry.toJson))]

namespace Packet

/-- The packet of a JSON text. -/
def ofJson (text : List UInt8) : Except Fault Packet :=
  Form.readPacket (Json.read text)

def toJson (p : Packet) : Value :=
  .object
    [ ("schema_version", natural32 p.schemaVersion),
      ("metadata", optionalValue Client.toJson p.metadata),
      ("metrics", optionalValue MetricBatch.toJson p.metrics),
      ("logs", optionalValue LogBatch.toJson p.logs) ]

end Packet

end TelemetryGateway.Telemetry
