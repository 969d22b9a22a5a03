import TelemetryGateway.Admission.Limiter
import TelemetryGateway.Gateway.Refusal
import TelemetryGateway.Metrics.Exposition

/-!
# The gateway

What all transports share: the credentials that are expected, the limiter, the bounds on packets, the
indexer and the counters. A packet is first admitted by the limiter, under the identifier of its
installation, and then validated and dispatched; whatever comes of it is counted once.

## Main definitions

- `Gateway`: the state
- `Moment`: when a request comes in and how long its handling takes
- `Gateway.authorize`: the verdict on a header value
- `Gateway.ingest`: one packet
- `Gateway.reject`: one request that a transport turned away
- `Gateway.exportMetrics`: the page of metrics
-/

namespace TelemetryGateway

open TelemetryGateway.Access (Credentials Denial)
open TelemetryGateway.Admission (Limiter)
open TelemetryGateway.Ingest (Acknowledgment Desk Indexer Indices Limits)
open TelemetryGateway.Log (Event)
open TelemetryGateway.Metrics (Counters Transport)
open TelemetryGateway.Telemetry (Packet)

/-- The state that all transports share, over an indexer of type `ι`. -/
structure Gateway (ι : Type) where
  limits : Limits
  indices : Indices
  /-- The credentials that are expected; without any, every request is authorized. -/
  credentials : Option Credentials
  limiter : Limiter Float
  counters : Counters := {}
  indexer : ι

namespace Gateway

/-- When a request comes in, in nanoseconds, and how long its handling takes, in microseconds. -/
structure Moment where
  now : Nat
  micros : UInt64

/-- What comes of a request: an answer, the state after it and the reports. -/
structure Step (ι β : Type) where
  answer : β
  gateway : Gateway ι
  events : List Event := []

variable {ι : Type}

def authEnabled (g : Gateway ι) : Bool := g.credentials.isSome

/-- The verdict on a header value. -/
def authorize (g : Gateway ι) (header : Option String) : Except Denial Unit :=
  match g.credentials with
  | some c => c.check header
  | none => .ok ()

def reject (g : Gateway ι) (transport : Transport) (r : Refusal) (micros : UInt64) : Gateway ι :=
  { g with counters := g.counters.recordRejected transport r.reason micros }

def accept (g : Gateway ι) (transport : Transport) (micros : UInt64) : Gateway ι :=
  { g with counters := g.counters.recordAccepted transport micros }

/-- Checks a header value for a transport; a refusal is counted and reported. -/
def guard (g : Gateway ι) (transport : Transport) (header : Option String) (micros : UInt64) :
    Step ι (Except Refusal Unit) :=
  match g.authorize header with
  | .ok _ => { answer := .ok (), gateway := g }
  | .error d =>
    { answer := .error (.unauthorized d)
      gateway := g.reject transport (.unauthorized d) micros
      events := [.unauthorized d transport] }

variable [Indexer ι]

/-- Validates and dispatches a packet that the limiter has let through. -/
def dispatch (g : Gateway ι) (p : Packet) : Step ι (Except Refusal Acknowledgment) :=
  let (result, desk) := Desk.send ⟨g.indexer, g.counters, []⟩ g.limits g.indices p
  { answer := result.mapError .invalid
    gateway := { g with indexer := desk.indexer, counters := desk.counters }
    events := desk.events }

/-- Takes a token for a packet, and dispatches the packet if there is one. -/
def handle (g : Gateway ι) (transport : Transport) (now : Nat) (p : Packet) :
    Step ι (Except Refusal Acknowledgment) :=
  -- The bucket is charged before the packet is looked at
  let (yes, limiter) := g.limiter.allow p.clientKey now
  let g := { g with limiter := limiter }
  if yes then g.dispatch p
  else
    { answer := .error .rateLimited
      gateway := g
      events := [.rateLimited p.clientKey transport] }

/-- Handles a packet and counts what comes of it. -/
def ingest (g : Gateway ι) (transport : Transport) (moment : Moment) (p : Packet) :
    Step ι (Except Refusal Acknowledgment) :=
  let s := g.handle transport moment.now p
  match s.answer with
  | .ok _ => { s with gateway := s.gateway.accept transport moment.micros }
  | .error r => { s with gateway := s.gateway.reject transport r moment.micros }

omit [Indexer ι] in
/-- The gateway with its keys counted anew. -/
def refreshKeys (g : Gateway ι) : Gateway ι :=
  { g with counters := g.counters.updateTrackedKeys g.limiter.trackedKeys }

omit [Indexer ι] in
/-- The page of metrics, for a gateway of an age, after its keys are counted anew. -/
def exportMetrics (g : Gateway ι) (uptime : String) : Step ι String :=
  let g := g.refreshKeys
  { answer := Metrics.exposition uptime g.counters, gateway := g }

end Gateway

end TelemetryGateway
