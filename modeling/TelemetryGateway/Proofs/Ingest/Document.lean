import Mathlib
import TelemetryGateway.Ingest.Document
import TelemetryGateway.Proofs.Telemetry.Attributes
import TelemetryGateway.Proofs.Telemetry.Vocabulary
import TelemetryGateway.Proofs.Text.Hex

/-!
# What documents keep of their sources

A document can be read by the names of its members alone, and what is read is what the packet said: numbers with their
whole range, identifiers byte by byte, terms by their texts, contexts entry by entry, and a section only where its
subject is present. Two things are not kept. An absent stack trace is like an empty one, and of a single-precision
number there is only the value that it is written as.

## Main definitions

- `Reader`, `field?`, `optionalField?`: reading a member by its name
- `Origin`, `MetricRecord`, `LogRecord`: what documents say
- `MetricRecord.read?`, `LogRecord.read?`: reading documents
- `Agree`: documents with the same members

## Main statements

- `MetricRecord.read?_metricDocument`, `LogRecord.read?_logDocument`: a document says what its source does
- `documents_faithful`: so equal documents have sources that say the same
-/

namespace TelemetryGateway.Ingest

open TelemetryGateway.Json (Value)
open TelemetryGateway.Number (Single)
open TelemetryGateway.Telemetry
open TelemetryGateway.Text

/-! ## Reading values -/

/-- What is read from a value, unless it is of another kind. -/
abbrev Reader (α : Type) := Value → Option α

namespace Reader

def int64 : Reader Int64
  | .int n => if Integer.minInt64 ≤ n ∧ n ≤ Integer.maxInt64 then some (Int64.ofInt n) else none
  | _ => none

def uint32 : Reader UInt32
  | .int n => if 0 ≤ n ∧ n < 2 ^ 32 then some (UInt32.ofNat n.toNat) else none
  | _ => none

def uint64 : Reader UInt64
  | .int n => if 0 ≤ n ∧ n < 2 ^ 64 then some (UInt64.ofNat n.toNat) else none
  | _ => none

def text : Reader String
  | .string s => some s
  | _ => none

/-- Bytes by their text in lowercase hexadecimal digits. -/
def bytes : Reader (List UInt8)
  | .string s => some (Hex.decode (utf8 s)) |>.filter (Hex.encode · = s)
  | _ => none

/-- A term by its name, or by the digits of its code. -/
def term (v : Vocabulary) : Reader (Term v)
  | .string s => Term.ofText? v s
  | _ => none

def items : Reader (List Value)
  | .array vs => some vs
  | _ => none

def entry (member : String × Value) : Option (String × String) :=
  (text member.2).map fun s => (member.1, s)

/-- Texts by their names. -/
def attributes : Reader Attributes
  | .object members => (members.mapM entry).map .ofList
  | _ => none

/-- A section, by its members. -/
def part {α : Type} (read? : Document → Option α) : Reader α
  | .object members => read? members
  | _ => none

@[simp] theorem int64_toInt (n : Int64) : int64 (.int n.toInt) = some n := by
  have hmin := n.le_toInt
  have hmax := n.toInt_lt
  have hrange : Integer.minInt64 ≤ n.toInt ∧ n.toInt ≤ Integer.maxInt64 := by
    simp only [Integer.minInt64, Integer.maxInt64]
    omega
  rw [int64, if_pos hrange, Int64.ofInt_toInt]

@[simp] theorem uint32_count32 (n : UInt32) : uint32 (count32 n) = some n := by
  have hlt := n.toNat_lt
  have hrange : (0 : Int) ≤ n.toNat ∧ (n.toNat : Int) < 2 ^ 32 := by omega
  rw [count32, uint32, if_pos hrange, Int.toNat_natCast, UInt32.ofNat_toNat]

@[simp] theorem uint64_count64 (n : UInt64) : uint64 (count64 n) = some n := by
  have hlt := n.toNat_lt
  have hrange : (0 : Int) ≤ n.toNat ∧ (n.toNat : Int) < 2 ^ 64 := by omega
  rw [count64, uint64, if_pos hrange, Int.toNat_natCast, UInt64.ofNat_toNat]

@[simp] theorem text_string (s : String) : text (.string s) = some s := rfl

@[simp] theorem bytes_encode (bs : List UInt8) : bytes (.string (Hex.encode bs)) = some bs := by
  simp [bytes, Hex.decode_encode]

theorem term_label {v : Vocabulary} (hlegible : v.Legible) (t : Term v) : term v (label t) = some t :=
  Term.ofText?_text hlegible t

@[simp] theorem attributes_contextMembers (a : Attributes) : attributes (.object (contextMembers a)) = some a := by
  have hentries : (contextMembers a).mapM entry = some a.entries := by
    rw [contextMembers, List.mapM_map]
    exact (List.mapM_pure (f := id)).trans (congrArg some (List.map_id _))
  rw [attributes, hentries, Option.map_some, Attributes.ofList_perm (.refl _)]

@[simp] theorem part_object {α : Type} (read? : Document → Option α) (members : Document) :
    part read? (.object members) = read? members := rfl

end Reader

/-! ## Reading members -/

section Members

variable {α : Type}

/-- The member of a name. -/
def field? (read : Reader α) (doc : Document) (name : String) : Option α :=
  (doc.lookup name).bind read

/-- The member of a name, which may be absent. -/
def optionalField? (read : Reader α) (doc : Document) (name : String) : Option (Option α) :=
  match doc.lookup name with
  | none => some none
  | some v => (read v).map some

theorem field?_of_lookup {read : Reader α} {doc : Document} {name : String} {v : Value}
    (h : doc.lookup name = some v) : field? read doc name = read v := by
  rw [field?, h, Option.bind_some]

/-- A section is found under its name, and under no other. -/
theorem lookup_part (name : String) (members : α → Document) (o : Option α) (other : String) :
    (part name members o).lookup other = if other = name then o.map (fun x => .object (members x)) else none := by
  cases o with
  | none => simp [part]
  | some x => by_cases h : other = name <;> simp [part, h, List.lookup_cons, beq_false_of_ne]

/-- A section is read where its subject is present, and is absent where the subject is. -/
theorem optionalField?_of_lookup {β : Type} {read? : Document → Option β} {view : α → β} {members : α → Document}
    {o : Option α} {doc : Document} {name : String} (hread : ∀ x, read? (members x) = some (view x))
    (h : doc.lookup name = o.map fun x => .object (members x)) :
    optionalField? (Reader.part read?) doc name = some (o.map view) := by
  rw [optionalField?, h]
  cases o with
  | none => rfl
  | some x => simp [hread]

end Members

/-- Documents that have the same members. -/
def Agree (doc doc' : Document) : Prop :=
  ∀ name, doc.lookup name = doc'.lookup name

/-! ## Sections -/

def readHardware? (doc : Document) : Option Hardware := do
  return {
    physicalCores := ← field? .uint32 doc "physical_cores"
    logicalCpus := ← field? .uint32 doc "logical_cpus"
    l1CacheKb := ← field? .uint32 doc "l1_cache_kb"
    l2CacheKb := ← field? .uint32 doc "l2_cache_kb"
    l3CacheKb := ← field? .uint32 doc "l3_cache_kb"
    totalPhysicalMemory := ← field? .uint64 doc "total_physical_bytes" }

/-- What a document says of processor use. -/
structure CpuRecord where
  total : Value
  cores : List Value

def CpuRecord.of (c : CpuUsage) : CpuRecord where
  total := measure c.totalPercent
  cores := c.corePercents.map measure

def CpuRecord.read? (doc : Document) : Option CpuRecord := do
  return {
    total := ← doc.lookup "total_usage_percent"
    cores := ← field? .items doc "core_usage_percent" }

def readMemory? (doc : Document) : Option MemoryUsage := do
  return {
    appResidentBytes := ← field? .uint64 doc "app_resident_bytes"
    appVirtualBytes := ← field? .uint64 doc "app_virtual_bytes"
    systemFreeBytes := ← field? .uint64 doc "system_free_bytes"
    systemActiveBytes := ← field? .uint64 doc "system_active_bytes"
    systemInactiveBytes := ← field? .uint64 doc "system_inactive_bytes"
    systemWiredBytes := ← field? .uint64 doc "system_wired_bytes" }

theorem readHardware?_hardwareMembers (h : Hardware) : readHardware? (hardwareMembers h) = some h := by
  have hphysical : (hardwareMembers h).lookup "physical_cores" = some (count32 h.physicalCores) := rfl
  have hlogical : (hardwareMembers h).lookup "logical_cpus" = some (count32 h.logicalCpus) := rfl
  have hl1 : (hardwareMembers h).lookup "l1_cache_kb" = some (count32 h.l1CacheKb) := rfl
  have hl2 : (hardwareMembers h).lookup "l2_cache_kb" = some (count32 h.l2CacheKb) := rfl
  have hl3 : (hardwareMembers h).lookup "l3_cache_kb" = some (count32 h.l3CacheKb) := rfl
  have htotal : (hardwareMembers h).lookup "total_physical_bytes" = some (count64 h.totalPhysicalMemory) := rfl
  simp only [readHardware?, field?_of_lookup hphysical, field?_of_lookup hlogical, field?_of_lookup hl1,
    field?_of_lookup hl2, field?_of_lookup hl3, field?_of_lookup htotal, Reader.uint32_count32, Reader.uint64_count64]
  rfl

theorem CpuRecord.read?_cpuMembers (c : CpuUsage) : CpuRecord.read? (cpuMembers c) = some (.of c) := rfl

theorem readMemory?_memoryMembers (m : MemoryUsage) : readMemory? (memoryMembers m) = some m := by
  have hresident : (memoryMembers m).lookup "app_resident_bytes" = some (count64 m.appResidentBytes) := rfl
  have hvirtual : (memoryMembers m).lookup "app_virtual_bytes" = some (count64 m.appVirtualBytes) := rfl
  have hfree : (memoryMembers m).lookup "system_free_bytes" = some (count64 m.systemFreeBytes) := rfl
  have hactive : (memoryMembers m).lookup "system_active_bytes" = some (count64 m.systemActiveBytes) := rfl
  have hinactive : (memoryMembers m).lookup "system_inactive_bytes" = some (count64 m.systemInactiveBytes) := rfl
  have hwired : (memoryMembers m).lookup "system_wired_bytes" = some (count64 m.systemWiredBytes) := rfl
  simp only [readMemory?, field?_of_lookup hresident, field?_of_lookup hvirtual, field?_of_lookup hfree,
    field?_of_lookup hactive, field?_of_lookup hinactive, field?_of_lookup hwired, Reader.uint64_count64]
  rfl

/-! ## Documents -/

/-- What documents of both kinds say: who sent them, when and over which network. -/
structure Origin where
  timestampMs : Int64
  platform : Term platforms
  installationId : List UInt8
  journeyId : List UInt8
  sdkVersionPacked : UInt32
  hostAppVersion : String
  hostAppName : String
  networkType : Term networkTypes

namespace Origin

def of (client : Client) (timestampMs : Int64) (network : Term networkTypes) : Origin where
  timestampMs := timestampMs
  platform := client.platform
  installationId := client.installationId
  journeyId := client.journeyId
  sdkVersionPacked := client.sdkVersionPacked
  hostAppVersion := client.hostAppVersion
  hostAppName := client.hostAppName
  networkType := network

def read? (doc : Document) : Option Origin := do
  return {
    timestampMs := ← field? .int64 doc "timestamp"
    platform := ← field? (.term platforms) doc "platform"
    installationId := ← field? .bytes doc "installation_id"
    journeyId := ← field? .bytes doc "journey_id"
    sdkVersionPacked := ← field? .uint32 doc "sdk_version"
    hostAppVersion := ← field? .text doc "host_app_version"
    hostAppName := ← field? .text doc "host_app_name"
    networkType := ← field? (.term networkTypes) doc "network" }

/-- What every document says is read from it, whatever it says besides. -/
theorem read?_append (client : Client) (timestampMs : Int64) (network : Term networkTypes) (rest : Document) :
    read? (commonMembers client timestampMs network ++ rest) = some (of client timestampMs network) := by
  generalize hdoc : commonMembers client timestampMs network ++ rest = doc
  have htimestamp : doc.lookup "timestamp" = some (.int timestampMs.toInt) := by rw [← hdoc]; rfl
  have hplatform : doc.lookup "platform" = some (label client.platform) := by rw [← hdoc]; rfl
  have hinstallation : doc.lookup "installation_id" = some (.string (Hex.encode client.installationId)) := by
    rw [← hdoc]; rfl
  have hjourney : doc.lookup "journey_id" = some (.string (Hex.encode client.journeyId)) := by rw [← hdoc]; rfl
  have hsdk : doc.lookup "sdk_version" = some (count32 client.sdkVersionPacked) := by rw [← hdoc]; rfl
  have hversion : doc.lookup "host_app_version" = some (.string client.hostAppVersion) := by rw [← hdoc]; rfl
  have hname : doc.lookup "host_app_name" = some (.string client.hostAppName) := by rw [← hdoc]; rfl
  have hnetwork : doc.lookup "network" = some (label network) := by rw [← hdoc]; rfl
  simp only [read?, field?_of_lookup htimestamp, field?_of_lookup hplatform, field?_of_lookup hinstallation,
    field?_of_lookup hjourney, field?_of_lookup hsdk, field?_of_lookup hversion, field?_of_lookup hname,
    field?_of_lookup hnetwork, Reader.int64_toInt, Reader.bytes_encode, Reader.uint32_count32, Reader.text_string,
    Reader.term_label legible_platforms, Reader.term_label legible_networkTypes]
  rfl

end Origin

/-- What the document of a measurement says. -/
structure MetricRecord where
  origin : Origin
  battery : Value
  hardware : Option Hardware
  cpu : Option CpuRecord
  memory : Option MemoryUsage

namespace MetricRecord

def of (client : Client) (point : MetricPoint) : MetricRecord where
  origin := .of client point.clientTimestampMs point.networkType
  battery := measure point.batteryLevelPercent
  hardware := client.hardware
  cpu := point.cpu.map .of
  memory := point.memory

def read? (doc : Document) : Option MetricRecord := do
  return {
    origin := ← Origin.read? doc
    battery := ← doc.lookup "battery_level"
    hardware := ← optionalField? (.part readHardware?) doc "device_hardware"
    cpu := ← optionalField? (.part CpuRecord.read?) doc "cpu"
    memory := ← optionalField? (.part readMemory?) doc "memory" }

/-- A section is found in the document of a measurement under its name. -/
theorem lookup_metricDocument (client : Client) (point : MetricPoint) {name : String}
    (hrest : name ∈ ["device_hardware", "cpu", "memory"]) :
    (metricDocument client point).lookup name =
      (((part "device_hardware" hardwareMembers client.hardware).lookup name).or
        ((part "cpu" cpuMembers point.cpu).lookup name)).or
          ((part "memory" memoryMembers point.memory).lookup name) := by
  have hcommon : (commonMembers client point.clientTimestampMs point.networkType).lookup name = none ∧
      (name == "battery_level") = false := by
    simp only [List.mem_cons, List.not_mem_nil, or_false] at hrest
    obtain rfl | rfl | rfl := hrest <;> exact ⟨rfl, rfl⟩
  rw [metricDocument, List.lookup_append, hcommon.1, Option.none_or, List.lookup_cons, hcommon.2]
  simp only [List.lookup_append]

theorem read?_metricDocument (client : Client) (point : MetricPoint) :
    read? (metricDocument client point) = some (.of client point) := by
  have horigin : Origin.read? (metricDocument client point) =
      some (.of client point.clientTimestampMs point.networkType) := Origin.read?_append _ _ _ _
  have hbattery : (metricDocument client point).lookup "battery_level" = some (measure point.batteryLevelPercent) := rfl
  -- Each section is looked for in the parts in front of it, too, which have other names
  have hhardware : (metricDocument client point).lookup "device_hardware" =
      client.hardware.map fun h => .object (hardwareMembers h) := by
    rw [lookup_metricDocument client point (by decide)]
    simp [lookup_part]
  have hcpu : (metricDocument client point).lookup "cpu" = point.cpu.map fun c => .object (cpuMembers c) := by
    rw [lookup_metricDocument client point (by decide)]
    simp [lookup_part]
  have hmemory : (metricDocument client point).lookup "memory" =
      point.memory.map fun m => .object (memoryMembers m) := by
    rw [lookup_metricDocument client point (by decide)]
    simp [lookup_part]
  rw [read?, horigin, hbattery, optionalField?_of_lookup readHardware?_hardwareMembers hhardware,
    optionalField?_of_lookup CpuRecord.read?_cpuMembers hcpu,
    optionalField?_of_lookup readMemory?_memoryMembers hmemory, Option.map_id', Option.map_id']
  rfl

/-- What is read does not depend on the order of members. -/
theorem read?_congr {doc doc' : Document} (h : Agree doc doc') : read? doc = read? doc' := by
  simp only [read?, Origin.read?, field?, optionalField?, h _]

end MetricRecord

/-- What the document of a log entry says. -/
structure LogRecord where
  origin : Origin
  level : Term logLevels
  tag : String
  message : String
  context : Attributes
  stackTrace : String
  threadName : String
  errorCode : String

namespace LogRecord

/-- An absent stack trace is like an empty one. -/
def of (client : Client) (entry : LogEntry) : LogRecord where
  origin := .of client entry.clientTimestampMs entry.networkType
  level := entry.level
  tag := entry.tag
  message := entry.message
  context := entry.context
  stackTrace := entry.stackTrace.getD ""
  threadName := entry.threadName
  errorCode := entry.errorCode

def read? (doc : Document) : Option LogRecord := do
  return {
    origin := ← Origin.read? doc
    level := ← field? (.term logLevels) doc "level"
    tag := ← field? .text doc "tag"
    message := ← field? .text doc "message"
    context := ← field? .attributes doc "context"
    stackTrace := ← field? .text doc "stack_trace"
    threadName := ← field? .text doc "thread_name"
    errorCode := ← field? .text doc "error_code" }

theorem read?_logDocument (client : Client) (entry : LogEntry) :
    read? (logDocument client entry) = some (.of client entry) := by
  have horigin : Origin.read? (logDocument client entry) =
      some (.of client entry.clientTimestampMs entry.networkType) := Origin.read?_append _ _ _ _
  generalize hdoc : logDocument client entry = doc at horigin ⊢
  have hlevel : doc.lookup "level" = some (label entry.level) := by rw [← hdoc]; rfl
  have htag : doc.lookup "tag" = some (.string entry.tag) := by rw [← hdoc]; rfl
  have hmessage : doc.lookup "message" = some (.string entry.message) := by rw [← hdoc]; rfl
  have hcontext : doc.lookup "context" = some (.object (contextMembers entry.context)) := by rw [← hdoc]; rfl
  have htrace : doc.lookup "stack_trace" = some (.string (entry.stackTrace.getD "")) := by rw [← hdoc]; rfl
  have hthread : doc.lookup "thread_name" = some (.string entry.threadName) := by rw [← hdoc]; rfl
  have hcode : doc.lookup "error_code" = some (.string entry.errorCode) := by rw [← hdoc]; rfl
  simp only [read?, horigin, field?_of_lookup hlevel, field?_of_lookup htag, field?_of_lookup hmessage,
    field?_of_lookup hcontext, field?_of_lookup htrace, field?_of_lookup hthread, field?_of_lookup hcode,
    Reader.text_string, Reader.attributes_contextMembers, Reader.term_label legible_logLevels]
  rfl

/-- What is read does not depend on the order of members. -/
theorem read?_congr {doc doc' : Document} (h : Agree doc doc') : read? doc = read? doc' := by
  simp only [read?, Origin.read?, field?, h _]

end LogRecord

/-! ## Names -/

/-- A section has one name at most. -/
theorem names_part {α : Type} (name : String) (members : α → Document) (o : Option α) :
    ((part name members o).map Prod.fst).Sublist [name] := by
  cases o with
  | none => exact List.nil_sublist _
  | some x => exact .refl _

/-- No name stands twice in the document of a measurement, whichever sections it has. -/
theorem nodup_metricDocument (client : Client) (point : MetricPoint) :
    ((metricDocument client point).map Prod.fst).Nodup := by
  have hnames : ((metricDocument client point).map Prod.fst).Sublist
      (["timestamp", "platform", "installation_id", "journey_id", "sdk_version", "host_app_version", "host_app_name",
        "network"] ++ "battery_level" :: (["device_hardware"] ++ ["cpu"] ++ ["memory"])) := by
    simp only [metricDocument, List.map_append, List.map_cons]
    exact (List.Sublist.refl _).append
      ((((names_part _ _ _).append (names_part _ _ _)).append (names_part _ _ _)).cons_cons _)
  exact hnames.nodup (by decide)

theorem nodup_logDocument (client : Client) (entry : LogEntry) : ((logDocument client entry).map Prod.fst).Nodup := by
  have hnames : (logDocument client entry).map Prod.fst =
      ["timestamp", "platform", "installation_id", "journey_id", "sdk_version", "host_app_version", "host_app_name",
        "network", "level", "tag", "message", "context", "stack_trace", "thread_name", "error_code"] := rfl
  rw [hnames]
  decide

/-! ## Faithful documents -/

/-- Only numbers that are not finite are null. -/
theorem measure_eq_null_iff {x : Single} : measure x = .null ↔ x.finite = false := by
  cases h : x.finite <;> simp [measure, h]

/-- Every document is read back, by the names of its members alone, as what its source says. No name stands twice.
Terms are known by their texts: names for the codes of a vocabulary and digits for all others, no two alike. Numbers
are null only where they are not finite. So sources with the same members in their documents say the same. -/
theorem documents_faithful :
    (∀ client point, MetricRecord.read? (metricDocument client point) = some (.of client point) ∧
      ((metricDocument client point).map Prod.fst).Nodup) ∧
    (∀ client entry, LogRecord.read? (logDocument client entry) = some (.of client entry) ∧
      ((logDocument client entry).map Prod.fst).Nodup) ∧
    (∀ v ∈ [platforms, networkTypes, logLevels],
      (∀ (t : Term v) (i : Nat) (name : String), t.code.toInt = i → v.names[i]? = some name → t.text = name) ∧
      (∀ t : Term v, (∀ i < v.names.length, t.code.toInt ≠ i) →
        t.text = toString t.code.toInt ∧ t.text ∉ v.names) ∧
      Function.Injective (Term.text : Term v → String)) ∧
    (∀ x, measure x = .null ↔ x.finite = false) ∧
    (∀ client point client' point', Agree (metricDocument client point) (metricDocument client' point') →
      MetricRecord.of client point = .of client' point') ∧
    (∀ client entry client' entry', Agree (logDocument client entry) (logDocument client' entry') →
      LogRecord.of client entry = .of client' entry') := by
  -- Sources are compared by what is read from their documents
  refine ⟨fun client point => ⟨MetricRecord.read?_metricDocument _ _, nodup_metricDocument _ _⟩,
    fun client entry => ⟨LogRecord.read?_logDocument _ _, nodup_logDocument _ _⟩, fun v hv => ?_,
    fun x => measure_eq_null_iff, fun client point client' point' h => ?_, fun client entry client' entry' h => ?_⟩
  · have hlegible := legible_of_mem hv
    refine ⟨fun t i name hcode hname => Term.text_of_name? (Term.name?_eq_some_iff.2 ⟨i, hcode, hname⟩),
      fun t hbeyond => ?_, Term.text_injective hlegible⟩
    have hnot : t.text ∉ v.names := by
      rw [Term.text_mem_names_iff hlegible]
      rintro ⟨i, hlt, hcode⟩
      exact hbeyond i hlt hcode
    exact ⟨Term.text_eq_toString hnot, hnot⟩
  · have hread := MetricRecord.read?_congr h
    rw [MetricRecord.read?_metricDocument, MetricRecord.read?_metricDocument] at hread
    exact Option.some.inj hread
  · have hread := LogRecord.read?_congr h
    rw [LogRecord.read?_logDocument, LogRecord.read?_logDocument] at hread
    exact Option.some.inj hread

/-- An entry with an empty stack trace from a platform without a name. -/
theorem documents_faithful_empty_trace :
    let client : Client := { platform := ⟨99⟩, installationId := [0xDE, 0xAD], hostAppName := "shop" }
    let entry : LogEntry := { level := ⟨4⟩, tag := "net", context := .ofList [("route", "/pay")] }
    logDocument client entry = logDocument client { entry with stackTrace := some "" } ∧
      LogRecord.of client entry = .of client { entry with stackTrace := some "" } ∧
      entry.level.text = "ERROR" ∧ client.platform.text = toString (99 : Int) ∧
      LogRecord.read? (logDocument client entry) = some (.of client entry) := by
  intro client entry
  have hdoc : logDocument client entry = logDocument client { entry with stackTrace := some "" } := rfl
  obtain ⟨-, hread, hterms, -, -, hagree⟩ := documents_faithful
  refine ⟨hdoc, hagree _ _ _ _ fun name => by rw [hdoc], ?_, ?_, (hread client entry).1⟩
  · exact (hterms logLevels (by simp)).1 entry.level 4 "ERROR" rfl rfl
  · exact ((hterms platforms (by simp)).2.1 client.platform (by decide)).1

end TelemetryGateway.Ingest
