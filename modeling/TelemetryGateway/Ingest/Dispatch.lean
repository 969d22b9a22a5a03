import TelemetryGateway.Ingest.Indexer

/-!
# Dispatch of packets

A valid packet becomes one document for each measurement and then one for each log entry, in the order
of the packet, and all of them are offered to the indexer. The acknowledgment depends on the packet
alone: documents that the indexer refuses are counted and reported, and the rest is offered all the
same. A packet that breaks a rule is not dispatched at all.

## Main definitions

- `itemsOf`: the documents of a packet
- `Desk`: the indexer with the counters and the reports so far
- `Desk.offer`, `Desk.send`: one document, and one packet
-/

namespace TelemetryGateway.Ingest

open TelemetryGateway.Log (Event)
open TelemetryGateway.Metrics (Counters)
open TelemetryGateway.Telemetry

structure Indices where
  metrics : String
  logs : String
deriving DecidableEq, Repr

/-- The answer to a packet that is taken. -/
structure Acknowledgment where
  success : Bool
  message : String
deriving DecidableEq, Repr

def accepted : Acknowledgment := ⟨true, "Accepted"⟩

/-- The documents of a packet: those of the measurements, then those of the log entries. -/
def itemsOf (indices : Indices) (client : Client) (p : Packet) : List IndexItem :=
  (metricPoints p).map (fun point => ⟨indices.metrics, metricDocument client point⟩) ++
    (logEntries p).map fun entry => ⟨indices.logs, logDocument client entry⟩

/-- An indexer with the counters that its answers change and the reports so far. -/
structure Desk (ι : Type) where
  indexer : ι
  counters : Counters
  events : List Event

namespace Desk

variable {ι : Type} [Indexer ι]

/-- Offers one document and counts the answer. -/
def offer (d : Desk ι) (item : IndexItem) : Desk ι :=
  let o := Indexer.add d.indexer item
  match o.result with
  | .ok _ =>
    { indexer := o.indexer
      counters := d.counters.recordEnqueued
      events := d.events ++ o.events }
  | .error e =>
    { indexer := o.indexer
      counters := d.counters.recordFailure
      events := d.events ++ o.events ++ [.documentRefused item.index e.message] }

/-- Offers the documents of a packet, if the packet is valid. -/
def send (d : Desk ι) (limits : Limits) (indices : Indices) (p : Packet) :
    Except ValidationError Acknowledgment × Desk ι :=
  match validate limits p with
  | .error e => (.error e, { d with events := d.events ++ [.packetRejected e] })
  | .ok client => (.ok accepted, (itemsOf indices client p).foldl offer d)

end Desk

end TelemetryGateway.Ingest
