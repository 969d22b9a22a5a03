import TelemetryGateway.Telemetry.Wire.Kind

/-!
# Packets on the wire

The numbers and kinds of the fields of every message, and with them the binary form of a packet. Fields
may come in any order and more than once: the last value of a scalar counts, messages merge, lists grow.
Numbers that a message does not have are skipped.

## Main definitions

- `Packet.encode`: the binary form of a packet
- `Packet.encodedLength`: the count of its bytes, computed without writing them
- `Packet.decode`: the packet of a byte string
-/

namespace TelemetryGateway.Telemetry

open Wire

namespace Wire

def hardwareSchema : Schema Hardware :=
  [ .of 1 .uint32 (·.physicalCores) fun v m => { m with physicalCores := v },
    .of 2 .uint32 (·.logicalCpus) fun v m => { m with logicalCpus := v },
    .of 3 .uint32 (·.l1CacheKb) fun v m => { m with l1CacheKb := v },
    .of 4 .uint32 (·.l2CacheKb) fun v m => { m with l2CacheKb := v },
    .of 5 .uint32 (·.l3CacheKb) fun v m => { m with l3CacheKb := v },
    .of 6 .uint64 (·.totalPhysicalMemory) fun v m => { m with totalPhysicalMemory := v } ]

def clientSchema : Schema Client :=
  [ .of 1 (.term platforms) (·.platform) fun v m => { m with platform := v },
    .of 2 .bytes (·.installationId) fun v m => { m with installationId := v },
    .of 3 .bytes (·.journeyId) fun v m => { m with journeyId := v },
    .of 4 .uint32 (·.sdkVersionPacked) fun v m => { m with sdkVersionPacked := v },
    .of 5 .text (·.hostAppVersion) fun v m => { m with hostAppVersion := v },
    .of 6 .text (·.hostAppName) fun v m => { m with hostAppName := v },
    .of 7 (.message hardwareSchema) (·.hardware) fun v m => { m with hardware := v } ]

def cpuSchema : Schema CpuUsage :=
  [ .of 1 .single (·.totalPercent) fun v m => { m with totalPercent := v },
    .of 2 .singles (·.corePercents) fun v m => { m with corePercents := v } ]

def memorySchema : Schema MemoryUsage :=
  [ .of 1 .uint64 (·.appResidentBytes) fun v m => { m with appResidentBytes := v },
    .of 2 .uint64 (·.appVirtualBytes) fun v m => { m with appVirtualBytes := v },
    .of 3 .uint64 (·.systemFreeBytes) fun v m => { m with systemFreeBytes := v },
    .of 4 .uint64 (·.systemActiveBytes) fun v m => { m with systemActiveBytes := v },
    .of 5 .uint64 (·.systemInactiveBytes) fun v m => { m with systemInactiveBytes := v },
    .of 6 .uint64 (·.systemWiredBytes) fun v m => { m with systemWiredBytes := v } ]

def pointSchema : Schema MetricPoint :=
  [ .of 1 .int64 (·.clientTimestampMs) fun v m => { m with clientTimestampMs := v },
    .of 2 (.term networkTypes) (·.networkType) fun v m => { m with networkType := v },
    .of 3 .single (·.batteryLevelPercent) fun v m => { m with batteryLevelPercent := v },
    .of 4 (.message cpuSchema) (·.cpu) fun v m => { m with cpu := v },
    .of 5 (.message memorySchema) (·.memory) fun v m => { m with memory := v } ]

def metricsSchema : Schema MetricBatch :=
  [ .of 1 (.messages pointSchema) (·.points) fun v m => { m with points := v } ]

def entrySchema : Schema LogEntry :=
  [ .of 1 .int64 (·.clientTimestampMs) fun v m => { m with clientTimestampMs := v },
    .of 2 (.term networkTypes) (·.networkType) fun v m => { m with networkType := v },
    .of 3 (.term logLevels) (·.level) fun v m => { m with level := v },
    .of 4 .text (·.tag) fun v m => { m with tag := v },
    .of 5 .text (·.message) fun v m => { m with message := v },
    .of 6 .attributes (·.context) fun v m => { m with context := v },
    .of 7 .optionalText (·.stackTrace) fun v m => { m with stackTrace := v },
    .of 8 .text (·.threadName) fun v m => { m with threadName := v },
    .of 9 .text (·.errorCode) fun v m => { m with errorCode := v } ]

def logsSchema : Schema LogBatch :=
  [ .of 1 (.messages entrySchema) (·.entries) fun v m => { m with entries := v } ]

def packetSchema : Schema Packet :=
  [ .of 1 .uint32 (·.schemaVersion) fun v m => { m with schemaVersion := v },
    .of 2 (.message clientSchema) (·.metadata) fun v m => { m with metadata := v },
    .of 3 (.message metricsSchema) (·.metrics) fun v m => { m with metrics := v },
    .of 4 (.message logsSchema) (·.logs) fun v m => { m with logs := v } ]

/-- Items of a packet stand in fewer than this many messages and groups. -/
def maxDepth : Nat := 100

end Wire

namespace Packet

/-- The binary form of a packet. -/
def encode (p : Packet) : List UInt8 :=
  packetSchema.write p

def encodedLength (p : Packet) : Nat :=
  packetSchema.size p

/-- The packet that a byte string encodes. -/
def decode (bs : List UInt8) : Option Packet :=
  packetSchema.merge maxDepth bs {}

end Packet

end TelemetryGateway.Telemetry
