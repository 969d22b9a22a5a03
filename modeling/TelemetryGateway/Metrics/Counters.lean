/-!
# Counters

What the gateway counts: requests by transport, by outcome and by latency, and documents by what became
of them. Counters have sixty-four bits and start again at zero after the greatest value.

## Main definitions

- `Transport`, `Rejection`: how a request came in, and why it was turned away
- `Counters`: all counts
- `Counters.recordAccepted`, `Counters.recordRejected`: one request more
- `Counters.recordEnqueued`, `Counters.recordFailure`: one document more
-/

namespace TelemetryGateway.Metrics

/-- How a request comes in. -/
inductive Transport where
  | http
  | grpc
deriving DecidableEq, Repr

def Transport.label : Transport → String
  | .http => "http"
  | .grpc => "grpc"

/-- Why a request is turned away. -/
inductive Rejection where
  | unauthorized
  | rateLimited
  | invalid
  | malformed
deriving DecidableEq, Repr

def Rejection.label : Rejection → String
  | .unauthorized => "unauthorized"
  | .rateLimited => "rate_limited"
  | .invalid => "invalid"
  | .malformed => "malformed"

structure Counters where
  total : UInt64 := 0
  http : UInt64 := 0
  grpc : UInt64 := 0
  accepted : UInt64 := 0
  unauthorized : UInt64 := 0
  rateLimited : UInt64 := 0
  invalid : UInt64 := 0
  malformed : UInt64 := 0
  /-- Documents that the indexer took. -/
  enqueued : UInt64 := 0
  /-- Documents that the indexer refused. -/
  failures : UInt64 := 0
  under1ms : UInt64 := 0
  under10ms : UInt64 := 0
  under100ms : UInt64 := 0
  under1s : UInt64 := 0
  over1s : UInt64 := 0
  /-- The sum of all latencies in microseconds. -/
  latencySum : UInt64 := 0
  latencyCount : UInt64 := 0
  /-- The keys of the limiter when they were last counted. -/
  trackedKeys : Nat := 0
deriving DecidableEq, Inhabited, Repr

namespace Counters

/-- One request more on a transport. -/
def countTransport (c : Counters) : Transport → Counters
  | .http => { c with http := c.http + 1 }
  | .grpc => { c with grpc := c.grpc + 1 }

/-- One latency more, in microseconds. Each falls into one class: those below a millisecond, below ten,
below a hundred, below a second, and the rest. -/
def countLatency (c : Counters) (micros : UInt64) : Counters :=
  let c := { c with latencySum := c.latencySum + micros, latencyCount := c.latencyCount + 1 }
  if micros < 1000 then { c with under1ms := c.under1ms + 1 }
  else if micros < 10000 then { c with under10ms := c.under10ms + 1 }
  else if micros < 100000 then { c with under100ms := c.under100ms + 1 }
  else if micros < 1000000 then { c with under1s := c.under1s + 1 }
  else { c with over1s := c.over1s + 1 }

/-- One request more, whatever becomes of it. -/
def recordRequest (c : Counters) (transport : Transport) (micros : UInt64) : Counters :=
  ({ c with total := c.total + 1 }.countTransport transport).countLatency micros

def recordAccepted (c : Counters) (transport : Transport) (micros : UInt64) : Counters :=
  let c := c.recordRequest transport micros
  { c with accepted := c.accepted + 1 }

def recordRejected (c : Counters) (transport : Transport) (reason : Rejection) (micros : UInt64) :
    Counters :=
  let c := c.recordRequest transport micros
  match reason with
  | .unauthorized => { c with unauthorized := c.unauthorized + 1 }
  | .rateLimited => { c with rateLimited := c.rateLimited + 1 }
  | .invalid => { c with invalid := c.invalid + 1 }
  | .malformed => { c with malformed := c.malformed + 1 }

def recordEnqueued (c : Counters) : Counters := { c with enqueued := c.enqueued + 1 }

def recordFailure (c : Counters) : Counters := { c with failures := c.failures + 1 }

def updateTrackedKeys (c : Counters) (count : Nat) : Counters := { c with trackedKeys := count }

def rejected (c : Counters) : UInt64 :=
  c.unauthorized + c.rateLimited + c.invalid + c.malformed

def within10ms (c : Counters) : UInt64 := c.under1ms + c.under10ms

def within100ms (c : Counters) : UInt64 := c.within10ms + c.under100ms

def within1s (c : Counters) : UInt64 := c.within100ms + c.under1s

end Counters

end TelemetryGateway.Metrics
