import TelemetryGateway.Metrics.Counters
import TelemetryGateway.Number.Real

/-!
# Exposition of metrics

The counters as a page of text: families of samples, each under two lines that say what it holds and of
which kind it is, with a blank line between families.

## Main definitions

- `Sample`, `Family`: a line with a value, and the lines of one metric
- `families`: all metrics of the gateway
- `exposition`: the page
-/

namespace TelemetryGateway.Metrics

/-- One line: the name of the metric, what is added to it, the labels, and the value. -/
structure Sample where
  suffix : String := ""
  labels : List (String × String) := []
  value : String

/-- The kinds of metrics. -/
inductive FamilyKind where
  | counter
  | gauge
  | histogram
deriving DecidableEq, Repr

def FamilyKind.label : FamilyKind → String
  | .counter => "counter"
  | .gauge => "gauge"
  | .histogram => "histogram"

/-- One metric with its samples. -/
structure Family where
  name : String
  help : String
  kind : FamilyKind
  samples : List Sample

def labelText (label : String × String) : String :=
  label.1 ++ "=\"" ++ label.2 ++ "\""

/-- The labels of a sample, if it has any. -/
def labelsText : List (String × String) → String
  | [] => ""
  | labels => "\x7b" ++ ",".intercalate (labels.map labelText) ++ "\x7d"

def Sample.line (family : String) (s : Sample) : String :=
  family ++ s.suffix ++ labelsText s.labels ++ " " ++ s.value

def Family.lines (f : Family) : List String :=
  [ "# HELP " ++ f.name ++ " " ++ f.help,
    "# TYPE " ++ f.name ++ " " ++ f.kind.label ] ++ f.samples.map (Sample.line f.name)

def plain (value : String) : Sample := { value := value }

def countText (n : UInt64) : String := toString n.toNat

/-- A sample of a histogram: the requests of at most so many seconds. -/
def bucket (bound : String) (n : UInt64) : Sample where
  suffix := "_bucket"
  labels := [("le", bound)]
  value := countText n

/-- The sum of latencies in seconds, to six places. -/
def secondsText (micros : UInt64) : String :=
  Number.Real.onPlaces (micros.toFloat / 1000000) 6

/-- All metrics of the gateway, with its age in seconds as a text. -/
def families (uptime : String) (c : Counters) : List Family :=
  [ { name := "telegate_uptime_seconds"
      help := "Time since server start in seconds"
      kind := .gauge
      samples := [plain uptime] },
    { name := "telegate_requests_total"
      help := "Total number of telemetry packets received"
      kind := .counter
      samples := [plain (countText c.total)] },
    { name := "telegate_requests_by_transport"
      help := "Total packets by transport type"
      kind := .counter
      samples := [(Transport.http, c.http), (Transport.grpc, c.grpc)].map fun (t, n) =>
        { labels := [("transport", t.label)], value := countText n } },
    { name := "telegate_requests_accepted"
      help := "Total packets acknowledged"
      kind := .counter
      samples := [plain (countText c.accepted)] },
    { name := "telegate_requests_rejected"
      help := "Total packets rejected by reason"
      kind := .counter
      samples :=
        [ (Rejection.unauthorized, c.unauthorized), (Rejection.rateLimited, c.rateLimited),
          (Rejection.invalid, c.invalid), (Rejection.malformed, c.malformed) ].map fun (r, n) =>
        { labels := [("reason", r.label)], value := countText n } },
    { name := "telegate_documents_enqueued"
      help := "Total documents handed to the indexer"
      kind := .counter
      samples := [plain (countText c.enqueued)] },
    { name := "telegate_indexing_failures"
      help := "Total documents the indexer refused"
      kind := .counter
      samples := [plain (countText c.failures)] },
    { name := "telegate_request_duration"
      help := "Request latency distribution"
      kind := .histogram
      samples :=
        [ bucket "0.001" c.under1ms,
          bucket "0.01" c.within10ms,
          bucket "0.1" c.within100ms,
          bucket "1" c.within1s,
          bucket "+Inf" c.latencyCount,
          { suffix := "_sum", value := secondsText c.latencySum },
          { suffix := "_count", value := countText c.latencyCount } ] },
    { name := "telegate_rate_limiter_keys"
      help := "Number of tracked rate limiter keys"
      kind := .gauge
      samples := [plain (toString c.trackedKeys)] } ]

/-- The page. -/
def exposition (uptime : String) (c : Counters) : String :=
  "\n\n".intercalate ((families uptime c).map fun f => "\n".intercalate f.lines) ++ "\n"

end TelemetryGateway.Metrics
