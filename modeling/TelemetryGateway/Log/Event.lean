import TelemetryGateway.Access.Credentials
import TelemetryGateway.Ingest.Document
import TelemetryGateway.Ingest.Validation
import TelemetryGateway.Metrics.Counters

/-!
# Log events

Everything that the gateway reports while it runs, and the record that each event becomes: how grave it
is, which part speaks, what it says and which values it adds.

## Main definitions

- `Level`: how grave an event is
- `Event`: what is reported
- `Record`, `Event.record`: the record of an event
-/

namespace TelemetryGateway.Log

open TelemetryGateway.Access (Denial)
open TelemetryGateway.Ingest
open TelemetryGateway.Json (Value)
open TelemetryGateway.Metrics (Transport)

/-- How grave an event is, the least grave first. -/
inductive Level where
  | trace
  | debug
  | info
  | warn
  | error
deriving DecidableEq, Repr

namespace Level

def name : Level → String
  | .trace => "TRACE"
  | .debug => "DEBUG"
  | .info => "INFO"
  | .warn => "WARN"
  | .error => "ERROR"

/-- How grave a level is, as a number. -/
def gravity : Level → Nat
  | .trace => 1
  | .debug => 2
  | .info => 3
  | .warn => 4
  | .error => 5

end Level

/-- The name of a transport in sentences. -/
def transportName : Transport → String
  | .http => "HTTP"
  | .grpc => "gRPC"

/-- What is reported. -/
inductive Event where
  /-- A packet breaks a rule. -/
  | packetRejected (e : ValidationError)
  /-- The indexer does not take a document. -/
  | documentRefused (index : String) (reason : String)
  /-- A key has no token left. -/
  | rateLimited (key : String) (transport : Transport)
  /-- A request has no valid credentials. -/
  | unauthorized (d : Denial) (transport : Transport)
  /-- A request body is no packet. -/
  | undecodable
  /-- There is no search backend. -/
  | noBackend
  /-- The indexer that keeps nothing has seen a document. -/
  | documentSeen (index : String) (document : String)
  /-- The indexer that keeps nothing has closed. -/
  | sinkClosed (added : UInt64)
  | transportStarting (transport : Transport) (address : String)
  | listening (transport : Transport) (address : String)
  | started (auth rateLimit cors : Bool)
  | signalReceived
  | taskCompleted
  | taskFailed (message : String)
  | taskPanicked
  | indexerClosed (added failed : UInt64)
  | stopped
deriving DecidableEq, Repr

/-- The name under which the program as a whole speaks. -/
def programTarget : String := "telegate"

/-- What is written of an event. -/
structure Record where
  level : Level
  /-- The part of the program that speaks, or the program as a whole. -/
  target : String
  message : String
  fields : List (String × Value)

namespace Event

def target : Event → String
  | .packetRejected _ | .documentRefused _ _ => "telegate_server::sender"
  | .rateLimited _ _ => "telegate_server::gateway"
  | .unauthorized _ _ => "telegate_server::middleware"
  | .undecodable => "telegate_server::transport::http"
  | .noBackend | .documentSeen _ _ | .sinkClosed _ => "telegate_server::indexer"
  | .listening .http _ => "telegate_server::transport::http"
  | .listening .grpc _ => "telegate_server::transport::grpc"
  | _ => programTarget

def level : Event → Level
  | .packetRejected _ | .rateLimited _ _ | .unauthorized _ _ | .undecodable => .warn
  | .documentRefused _ _ | .taskFailed _ | .taskPanicked => .error
  | .documentSeen _ _ | .sinkClosed _ => .debug
  | _ => .info

def message : Event → String
  | .packetRejected _ => "rejected telemetry packet"
  | .documentRefused _ _ => "failed to add document to indexer"
  | .rateLimited _ _ => "rate limit exceeded"
  | .unauthorized _ _ => "unauthorized request"
  | .undecodable => "undecodable telemetry request"
  | .noBackend =>
    "search backend not configured, using null indexer (documents are not persisted)"
  | .documentSeen _ _ => "null indexer: document received"
  | .sinkClosed _ => "null indexer closed"
  | .transportStarting t address => "Starting " ++ transportName t ++ " transport on " ++ address
  | .listening t address => transportName t ++ " server listening on " ++ address
  | .started _ _ _ => "telegate started"
  | .signalReceived => "shutdown signal received"
  | .taskCompleted => "Transport task completed successfully"
  | .taskFailed text => "Transport task failed: " ++ text
  | .taskPanicked => "Transport task panicked"
  | .indexerClosed _ _ => "indexer closed"
  | .stopped => "telegate stopped"

/-- The values that an event adds, in their order. -/
def fields : Event → List (String × Value)
  | .packetRejected e => [("reason", .string e.reason), ("error", .string e.message)]
  | .documentRefused index reason => [("index", .string index), ("error", .string reason)]
  | .rateLimited key t => [("client_key", .string key), ("transport", .string t.label)]
  | .unauthorized d t => [("error", .string d.message), ("transport", .string t.label)]
  | .documentSeen index document =>
    [("index", .string index), ("action", .string "index"), ("document", .string document)]
  | .sinkClosed added => [("added", .int added.toNat)]
  | .started auth rateLimit cors =>
    [("auth", .bool auth), ("rate_limit", .bool rateLimit), ("cors", .bool cors)]
  | .indexerClosed added failed => [("added", .int added.toNat), ("failed", .int failed.toNat)]
  | _ => []

def record (e : Event) : Record where
  level := e.level
  target := e.target
  message := e.message
  fields := e.fields

end Event

end TelemetryGateway.Log
