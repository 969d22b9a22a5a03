import TelemetryGateway.Ingest.Dispatch
import TelemetryGateway.Json.Value
import TelemetryGateway.Telemetry.Form.Kind

/-!
# Acknowledgments in JSON

The answer to a packet is a message of the same protocol, and has a JSON form by the same rules.

## Main definitions

- `Acknowledgment.schema`: the fields by name
- `Acknowledgment.ofJson`, `Acknowledgment.toJson`: the form read and written
-/

namespace TelemetryGateway.Ingest

open TelemetryGateway.Json (Value)
open TelemetryGateway.Telemetry

namespace Acknowledgment

instance : Inhabited Acknowledgment := ⟨⟨false, ""⟩⟩

def schema : Form.Schema Acknowledgment :=
  [ .of "success" Form.flag fun v m => { m with success := v },
    .of "message" Form.text fun v m => { m with message := v } ]

/-- The acknowledgment of a JSON text: its value has to be one, and nothing may follow it. -/
def ofJson (text : List UInt8) : Except Fault Acknowledgment := do
  let reading := Json.read text
  let a ← Form.message schema reading.tree
  if reading.complete then .ok a else .error .form

def toJson (a : Acknowledgment) : Value :=
  .object [("success", .bool a.success), ("message", .string a.message)]

end Acknowledgment

end TelemetryGateway.Ingest
