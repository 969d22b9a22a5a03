import TelemetryGateway.Settings.Basic
import TelemetryGateway.Text.Letters
import TelemetryGateway.Yaml.Node

/-!
# Reading settings

Settings from a tree of values. A part is a table of its fields, of which any may be missing and names
of no field are skipped, or a list of its fields in their order. How a scalar becomes the value of a
field is a matter of conversion: a strict one takes values of the right type only, a lenient one also
what can be understood as one.

## Main definitions

- `Conversion`: how scalars are taken, with `strict` and `lenient`
- `Slot`, `readPart`: a field, and a part of fields
- `Settings.ofNode?`: settings from a tree
-/

namespace TelemetryGateway.Settings

open TelemetryGateway.Number (Double)
open TelemetryGateway.Text
open TelemetryGateway.Yaml (Node)

/-- How scalars are taken. -/
structure Conversion where
  bool : Node → Option Bool
  natural : Node → Option Nat
  real : Node → Option Double
  text : Node → Option String
  /-- The name of one of several choices. -/
  choice : Node → Option String
  /-- A list may have more items than there are fields. -/
  surplus : Bool

def wordOfInt? (n : Int) : Option Nat :=
  if 0 ≤ n ∧ n ≤ Integer.maxUInt64 then some n.toNat else none

def boolText (b : Bool) : String := if b then "true" else "false"

/-- Values of the right type only. -/
def strict : Conversion where
  bool
    | .bool b => some b
    | _ => none
  natural
    | .int n => wordOfInt? n
    | _ => none
  real
    | .int n => some (Double.ofInt n)
    | .real x => some x
    | _ => none
  text
    | .text s => some s
    | _ => none
  choice
    | .text s => some s
    | .table [(s, .null)] => some s
    | _ => none
  surplus := false

/-- The truth value that a word means. -/
def wordOfTruth? (s : String) : Option Bool :=
  if ["true", "on", "yes"].contains (lowercase s) then some true
  else if ["false", "off", "no"].contains (lowercase s) then some false
  else none

/-- Whatever can be understood as a value of the right type: truth values stand for one and zero, every
number but zero is true, numbers are rounded, a half away from zero, and cut off at the bounds, and
texts may spell any of these. -/
def lenient : Conversion where
  bool
    | .bool b => some b
    | .int n => some (n != 0)
    | .real x => some (x.toFloat != 0)
    | .text s => if s = "1" then some true else if s = "0" then some false else wordOfTruth? s
    | _ => none
  natural
    | .bool b => some b.toNat
    | .int n => wordOfInt? n
    | .real x => some x.toFloat.round.toUInt64.toNat
    | .text s =>
      match wordOfTruth? s with
      | some b => some b.toNat
      | none => Integer.unsigned? Integer.maxUInt64 s.toList
    | _ => none
  real
    | .bool b => some (.ofInt b.toNat)
    | .int n => some (Double.ofInt n)
    | .real x => some x
    | .text s =>
      match wordOfTruth? s with
      | some b => some (.ofInt b.toNat)
      | none => Double.read? s
    | _ => none
  text
    | .bool b => some (boolText b)
    | .int n => some (toString n)
    | .real x => some x.plain
    | .text s => some s
    | _ => none
  choice
    | .text s => some s
    | .table [(s, _)] => some s
    | _ => none
  surplus := true

namespace Conversion

def below (c : Conversion) (bound : Nat) (v : Node) : Option Nat :=
  (c.natural v).filter (· < bound)

def port (c : Conversion) (v : Node) : Option UInt16 := (c.below 0x10000 v).map .ofNat

def word32 (c : Conversion) (v : Node) : Option UInt32 := (c.below 0x100000000 v).map .ofNat

def word64 (c : Conversion) (v : Node) : Option UInt64 := (c.natural v).map .ofNat

def texts (c : Conversion) : Node → Option (List String)
  | .list items => items.mapM c.text
  | _ => none

/-- A way to write log records. -/
def encoding (c : Conversion) (v : Node) : Option Encoding :=
  (c.choice v).bind fun s =>
    if s = "json" then some .json else if s = "console" then some .console else none

/-- A place for log records. -/
def output (c : Conversion) (v : Node) : Option Output :=
  (c.choice v).bind fun s =>
    if s = "stdout" then some .stdout else if s = "stderr" then some .stderr else none

end Conversion

/-- A field of a part. -/
structure Slot (σ : Type) where
  name : String
  /-- The change that a value makes. -/
  read : Conversion → Node → Option (σ → σ)

/-- The field of a name and a kind, with its place in the part. -/
def Slot.of {σ α : Type} (name : String) (kind : Conversion → Node → Option α) (set : α → σ → σ) :
    Slot σ where
  name := name
  read c v := (kind c v).map set

/-- A part with the value of one field, if there is one. -/
def readSlot {σ : Type} (c : Conversion) (part : σ) (slot : Slot σ × Option Node) : Option σ :=
  match slot.2 with
  | none => some part
  | some v => (slot.1.read c v).map fun change => change part

/-- A part, from the values of its fields. -/
def readPart {σ : Type} (slots : List (Slot σ)) (start : σ) (c : Conversion) : Node → Option σ
  | .table entries =>
    (slots.map fun slot => (slot, entries.lookup slot.name)).foldlM (readSlot c) start
  | .list items =>
    if slots.length < items.length && !c.surplus then none
    else (slots.zip (items.map some)).foldlM (readSlot c) start
  | _ => none

def basicAuthSlots : List (Slot BasicAuth) :=
  [ .of "enabled" Conversion.bool fun v p => { p with enabled := v },
    .of "username" Conversion.text fun v p => { p with username := v },
    .of "password" Conversion.text fun v p => { p with password := v } ]

def rateLimitSlots : List (Slot RateLimit) :=
  [ .of "enabled" Conversion.bool fun v p => { p with enabled := v },
    .of "requests_per_second" Conversion.real fun v p => { p with requestsPerSecond := v },
    .of "burst" Conversion.word32 fun v p => { p with burst := v } ]

def corsSlots : List (Slot Cors) :=
  [ .of "enabled" Conversion.bool fun v p => { p with enabled := v },
    .of "allowed_origins" Conversion.texts fun v p => { p with allowedOrigins := v },
    .of "allowed_methods" Conversion.texts fun v p => { p with allowedMethods := v },
    .of "allowed_headers" Conversion.texts fun v p => { p with allowedHeaders := v } ]

def serverSlots : List (Slot Server) :=
  [ .of "bind_address" Conversion.text fun v p => { p with bindAddress := v },
    .of "http_port" Conversion.port fun v p => { p with httpPort := v },
    .of "grpc_port" Conversion.port fun v p => { p with grpcPort := v },
    .of "max_packet_size_bytes" Conversion.word64 fun v p => { p with maxPacketBytes := v },
    .of "max_context_attributes" Conversion.word64 fun v p => { p with maxContextAttributes := v },
    .of "basic_auth" (readPart basicAuthSlots {}) fun v p => { p with basicAuth := v },
    .of "rate_limit" (readPart rateLimitSlots {}) fun v p => { p with rateLimit := v },
    .of "cors" (readPart corsSlots {}) fun v p => { p with cors := v } ]

def indexSlots : List (Slot Ingest.Indices) :=
  [ .of "index_metrics" Conversion.text fun v p => { p with metrics := v },
    .of "index_logs" Conversion.text fun v p => { p with logs := v } ]

def loggingSlots : List (Slot Logging) :=
  [ .of "level" Conversion.text fun v p => { p with level := v },
    .of "encoding" Conversion.encoding fun v p => { p with encoding := v },
    .of "output" Conversion.output fun v p => { p with output := v } ]

def parts : List (Slot Settings) :=
  [ .of "server" (readPart serverSlots {}) fun v p => { p with server := v },
    .of "indexer" (readPart indexSlots defaultIndices) fun v p => { p with indices := v },
    .of "logging" (readPart loggingSlots {}) fun v p => { p with logging := v } ]

/-- Settings from a tree. -/
def ofNode? (c : Conversion) (tree : Node) : Option Settings :=
  readPart parts {} c tree

end TelemetryGateway.Settings
