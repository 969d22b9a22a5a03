import TelemetryGateway.Ingest.Dispatch

/-!
# Refusals

Why a request is turned away, and how each transport says so: over HTTP with a status and a JSON body,
over gRPC with a status code and a message. What exactly is wrong with a body that cannot be decoded
goes to the logs and not to clients of HTTP.

## Main definitions

- `Refusal`: the causes
- `Refusal.message`, `Refusal.reason`: the wording, and the label in metrics
- `Refusal.httpStatus`, `Refusal.httpText`, `Refusal.grpcCode`: the forms on the transports
-/

namespace TelemetryGateway.Gateway

open TelemetryGateway.Access (Denial)
open TelemetryGateway.Ingest (ValidationError)
open TelemetryGateway.Metrics (Rejection)

/-- Why a request is turned away. -/
inductive Refusal where
  | unauthorized (d : Denial)
  | rateLimited
  | invalid (e : ValidationError)
  /-- The body is no packet, for a reason in words. -/
  | malformed (detail : String)
deriving DecidableEq, Repr

namespace Refusal

def message : Refusal → String
  | .unauthorized d => d.message
  | .rateLimited => "rate limit exceeded"
  | .invalid e => e.message
  | .malformed detail => detail

/-- The class of a refusal in metrics. -/
def reason : Refusal → Rejection
  | .unauthorized _ => .unauthorized
  | .rateLimited => .rateLimited
  | .invalid _ => .invalid
  | .malformed _ => .malformed

def httpStatus : Refusal → Nat
  | .unauthorized _ => 401
  | .rateLimited => 429
  | .invalid _ | .malformed _ => 400

/-- What clients of HTTP are told. -/
def httpText : Refusal → String
  | .malformed _ => "Invalid request format"
  | r => r.message

def grpcCode : Refusal → Nat
  | .unauthorized _ => 16
  | .rateLimited => 8
  | .invalid _ | .malformed _ => 3

end Refusal

end TelemetryGateway.Gateway
