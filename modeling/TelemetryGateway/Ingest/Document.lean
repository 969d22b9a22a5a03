import TelemetryGateway.Json.Value
import TelemetryGateway.Telemetry.Packet

/-!
# Documents

What is kept of a measurement or a log entry: an object that can be searched by itself, so it repeats
what the packet says of its sender. Identifiers are hexadecimal text and terms are names, or the digits
of a code without a name.

## Main definitions

- `Document`: the members of an object
- `metricDocument`, `logDocument`: the documents of a measurement and of a log entry
-/

namespace TelemetryGateway.Ingest

open TelemetryGateway.Json (Value)
open TelemetryGateway.Number (Single)
open TelemetryGateway.Telemetry
open TelemetryGateway.Text

/-- The members of an object. -/
abbrev Document := List (String × Value)

def count32 (n : UInt32) : Value := .int n.toNat

def count64 (n : UInt64) : Value := .int n.toNat

/-- A single-precision number as the double that its shortest decimal names; one that is not finite is
null. -/
def measure (x : Single) : Value :=
  if x.finite then .double x.toDouble else .null

/-- The name of a term. -/
def label {v : Vocabulary} (t : Term v) : Value := .string t.text

/-- What every document says. -/
def commonMembers (client : Client) (timestampMs : Int64) (network : Term networkTypes) : Document :=
  [ ("timestamp", .int timestampMs.toInt),
    ("platform", label client.platform),
    ("installation_id", .string (Hex.encode client.installationId)),
    ("journey_id", .string (Hex.encode client.journeyId)),
    ("sdk_version", count32 client.sdkVersionPacked),
    ("host_app_version", .string client.hostAppVersion),
    ("host_app_name", .string client.hostAppName),
    ("network", label network) ]

def hardwareMembers (h : Hardware) : Document :=
  [ ("physical_cores", count32 h.physicalCores),
    ("logical_cpus", count32 h.logicalCpus),
    ("l1_cache_kb", count32 h.l1CacheKb),
    ("l2_cache_kb", count32 h.l2CacheKb),
    ("l3_cache_kb", count32 h.l3CacheKb),
    ("total_physical_bytes", count64 h.totalPhysicalMemory) ]

def cpuMembers (c : CpuUsage) : Document :=
  [ ("total_usage_percent", measure c.totalPercent),
    ("core_usage_percent", .array (c.corePercents.map measure)) ]

def memoryMembers (m : MemoryUsage) : Document :=
  [ ("app_resident_bytes", count64 m.appResidentBytes),
    ("app_virtual_bytes", count64 m.appVirtualBytes),
    ("system_free_bytes", count64 m.systemFreeBytes),
    ("system_active_bytes", count64 m.systemActiveBytes),
    ("system_inactive_bytes", count64 m.systemInactiveBytes),
    ("system_wired_bytes", count64 m.systemWiredBytes) ]

/-- A section of a document, left out where its subject is absent. -/
def part {α : Type} (name : String) (members : α → Document) : Option α → Document
  | some x => [(name, .object (members x))]
  | none => []

/-- The document of a measurement. -/
def metricDocument (client : Client) (point : MetricPoint) : Document :=
  commonMembers client point.clientTimestampMs point.networkType ++
    ("battery_level", measure point.batteryLevelPercent) ::
      (part "device_hardware" hardwareMembers client.hardware ++
        part "cpu" cpuMembers point.cpu ++ part "memory" memoryMembers point.memory)

def contextMembers (a : Attributes) : Document :=
  a.entries.map fun e => (e.1, .string e.2)

/-- The document of a log entry. An absent stack trace is an empty text. -/
def logDocument (client : Client) (entry : LogEntry) : Document :=
  commonMembers client entry.clientTimestampMs entry.networkType ++
    [ ("level", label entry.level),
      ("tag", .string entry.tag),
      ("message", .string entry.message),
      ("context", .object (contextMembers entry.context)),
      ("stack_trace", .string (entry.stackTrace.getD "")),
      ("thread_name", .string entry.threadName),
      ("error_code", .string entry.errorCode) ]

end TelemetryGateway.Ingest
