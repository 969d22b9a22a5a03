import TelemetryGateway.Log.Event

/-!
# Indexers

An indexer takes documents to be indexed, one at a time and without waiting, and may refuse any of them.
Where no search backend is configured, an indexer stands in that counts documents, reports them and
keeps none.

## Main definitions

- `IndexItem`: a document and the index it is meant for
- `Indexer`: what an indexer can do
- `Sink`: the indexer that keeps nothing
-/

namespace TelemetryGateway.Ingest

open TelemetryGateway.Json (Value)
open TelemetryGateway.Log (Event)

/-- A document and the index it is meant for. -/
structure IndexItem where
  index : String
  document : Document
deriving BEq

/-- Why an indexer refuses a document. -/
inductive IndexerError where
  | closed
  /-- The document cannot be written, for a reason in words. -/
  | encoding (detail : String)
deriving DecidableEq, Repr

def IndexerError.message : IndexerError → String
  | .closed => "indexer is closed"
  | .encoding detail => "failed to encode document: " ++ detail

/-- How many documents an indexer has taken and refused. -/
structure IndexerStats where
  added : UInt64 := 0
  failed : UInt64 := 0
deriving DecidableEq, Repr

/-- What comes of offering a document to an indexer. -/
structure Offer (ι : Type) where
  result : Except IndexerError Unit
  indexer : ι
  events : List Event

/-- What an indexer can do. -/
class Indexer (ι : Type) where
  add : ι → IndexItem → Offer ι
  /-- Takes no document from now on. -/
  close : ι → ι × List Event

/-- An indexer that reports documents and drops them. -/
structure Sink where
  closed : Bool := false
  stats : IndexerStats := {}
deriving DecidableEq

namespace Sink

/-- Takes a document unless the sink is closed. -/
def add (s : Sink) (item : IndexItem) : Offer Sink :=
  if s.closed then
    { result := .error .closed
      indexer := { s with stats := { s.stats with failed := s.stats.failed + 1 } }
      events := [] }
  else
    { result := .ok ()
      indexer := { s with stats := { s.stats with added := s.stats.added + 1 } }
      events := [.documentSeen item.index (Value.object item.document).sorted.text] }

/-- Closes the sink; closing it again changes nothing. -/
def close (s : Sink) : Sink × List Event :=
  ({ s with closed := true }, [.sinkClosed s.stats.added])

instance : Indexer Sink where
  add := add
  close := close

end Sink

/-- The indexer of a process without a search backend, and what is reported of that. -/
def buildIndexer : Sink × List Event :=
  ({}, [.noBackend])

end TelemetryGateway.Ingest
