import TelemetryGateway.Text.Integer

/-!
# Open vocabularies

A vocabulary lists the names that a field may take. On the wire a name is its position in the list, a
signed integer of thirty-two bits, and senders may be newer than the gateway: every integer is a term,
and those beyond the list have no name.

## Main definitions

- `Vocabulary`: what is named, and the names in the order of their codes
- `Term`: one code of a vocabulary
- `platforms`, `networkTypes`, `logLevels`: the vocabularies of telemetry packets
-/

namespace TelemetryGateway.Telemetry

/-- A list of names whose codes are their positions. -/
structure Vocabulary where
  /-- What the names stand for, as it is called in messages. -/
  noun : String
  /-- The names in the order of their codes. -/
  names : List String

def platforms : Vocabulary where
  noun := "platform"
  names := ["PLATFORM_UNSPECIFIED", "ANDROID", "IOS", "WEB"]

def networkTypes : Vocabulary where
  noun := "network type"
  names := ["NET_UNKNOWN", "NET_WIFI", "NET_ETHERNET", "NET_CELLULAR_2G", "NET_CELLULAR_3G",
    "NET_CELLULAR_4G", "NET_CELLULAR_5G", "NET_OFFLINE"]

def logLevels : Vocabulary where
  noun := "log level"
  names := ["LOG_LEVEL_UNSPECIFIED", "DEBUG", "INFO", "WARN", "ERROR", "FATAL"]

/-- One term of a vocabulary, by its code. -/
structure Term (v : Vocabulary) where
  code : Int32
deriving DecidableEq, Inhabited, Repr

namespace Term

variable {v : Vocabulary}

/-- The term of code zero, which a field that is not given has. -/
def unspecified : Term v := ⟨0⟩

/-- The name of a term, if its code is on the list. -/
def name? (t : Term v) : Option String :=
  let n := t.code.toInt
  if 0 ≤ n then v.names[n.toNat]? else none

/-- The name of a term, or the decimal digits of its code. -/
def text (t : Term v) : String :=
  t.name?.getD (toString t.code.toInt)

/-- The term of a name. Names are compared character by character. -/
def ofName? (v : Vocabulary) (name : String) : Option (Term v) :=
  (v.names.findIdx? (· == name)).map fun i => ⟨Int32.ofNat i⟩

end Term

end TelemetryGateway.Telemetry
