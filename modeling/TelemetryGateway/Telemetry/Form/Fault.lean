import TelemetryGateway.Telemetry.Vocabulary
import TelemetryGateway.Text.Quoted

/-!
# Faults of packets in JSON

Why a JSON text is no packet. Only a text that should name a term or spell an integer is worth a message
of its own; everything else is a matter of form.

## Main definitions

- `Fault`: the causes
- `Fault.message?`: the wording, for the causes that have one
-/

namespace TelemetryGateway.Telemetry

open TelemetryGateway.Text (quoted)

/-- The integer types that may be spelled in text. -/
inductive IntegerType where
  | int64
  | uint64
deriving DecidableEq, Repr

def IntegerType.name : IntegerType → String
  | .int64 => "i64"
  | .uint64 => "u64"

/-- Why a JSON text is no packet. -/
inductive Fault where
  /-- The text is no JSON, or a value has the wrong shape. -/
  | form
  /-- A text is no name of the vocabulary. -/
  | unknownName (noun : String) (value : String)
  /-- A text spells no integer of the type. -/
  | badInteger (type : IntegerType) (value : String)
deriving DecidableEq, Repr

def Fault.message? : Fault → Option String
  | .form => none
  | .unknownName noun value => some s!"unknown {noun} value: {value}"
  | .badInteger type value => some ("invalid " ++ type.name ++ " value: " ++ quoted value)

end TelemetryGateway.Telemetry
