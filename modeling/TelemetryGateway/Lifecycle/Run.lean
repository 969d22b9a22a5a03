import TelemetryGateway.CommandLine.Pages
import TelemetryGateway.Gateway.Assembly
import TelemetryGateway.Health.Check
import TelemetryGateway.Log.Filter
import TelemetryGateway.Log.Writing
import TelemetryGateway.Lifecycle.Supervisor
import TelemetryGateway.Settings.Location

/-!
# A run of the program

From arguments to an exit status: what the program finds around it, and the lines that it writes. The
records of transports that run side by side come in one of the orders that are possible.

## Main definitions

- `Surroundings`: what the program finds around it
- `Output`: lines on both streams and an exit status
- `settingsOf`: the settings of an invocation
- `serve`, `run`: the server, and the program
-/

namespace TelemetryGateway.Lifecycle

open TelemetryGateway.CommandLine (Invocation programName)
open TelemetryGateway.Health (Network)
open TelemetryGateway.Ingest (Sink buildIndexer)
open TelemetryGateway.Log (Event Filter Record)
open TelemetryGateway.Metrics (Transport)
open TelemetryGateway.Settings (Encoding Environment Flaw LoadFlaw Logging completions settingsText?)

/-- What the program finds around it. -/
structure Surroundings where
  file? : String → Option String
  environment : Environment
  /-- The transports whose ports somebody else has. -/
  busy : List Transport
  /-- The process is told to end. -/
  signalled : Bool
  network : Network

/-- A line. -/
inductive Line where
  | text (s : String)
  | record (encoding : Encoding) (r : Record)

def Line.display : Line → String
  | .text s => s
  | .record encoding r => r.line encoding

/-- What the program leaves behind. -/
structure Output where
  /-- The exit status; there is none if the program goes on. -/
  exit : Option Nat
  stdout : List Line := []
  stderr : List Line := []

/-- The lines of a fault that ends the program. -/
def faultLine (message : String) : Line := .text ("Error: " ++ message)

def Output.ofFault (message : String) : Output where
  exit := some 1
  stderr := [faultLine message]

/-- The end of the program where it cannot go on, without a word. -/
def Output.broken : Output where
  exit := some 101

/-- Why an invocation has no settings. -/
inductive StartFlaw where
  | notLoaded (path : String)
  | flaw (f : Flaw)
  /-- The settings ask for a list that is too long to be held. -/
  | boundless

/-- The wording of a flaw; the last one comes without words. -/
def StartFlaw.message? : StartFlaw → Option String
  | .notLoaded path => some ("failed to load configuration from " ++ path)
  | .flaw f => some f.message
  | .boundless => none

/-- The end of the program by a flaw. -/
def Output.ofFlaw (f : StartFlaw) : Output :=
  match f.message? with
  | some message => .ofFault message
  | none => .broken

/-- The files that the program may look into, for arguments without its name. -/
def filesOf (env : Environment) (args : List String) : List String :=
  match CommandLine.parse env args with
  | .ok (.run i) => i.config :: completions i.config
  | _ => []

/-- The settings with the level of an invocation in the place of their own. -/
def withLevel (s : Settings) (level : Option String) : Settings :=
  match level with
  | some level => { s with logging := { s.logging with level := level } }
  | none => s

/-- The settings of an invocation. -/
def settingsOf (file? : String → Option String) (env : Environment) (i : Invocation) :
    Except StartFlaw Settings :=
  match settingsText? file? i.config with
  | none => .error (.notLoaded i.config)
  | some text =>
    match Settings.load text env with
    | .error .unreadable => .error (.notLoaded i.config)
    | .error .boundless => .error .boundless
    | .ok s => (withLevel s i.logLevel).complete.mapError .flaw

/-- The records of events that pass a filter, as lines. -/
def recordLines (logging : Logging) (filter : Filter) (events : List Event) : List Line :=
  ((events.map Event.record).filter filter.passes).map (.record logging.encoding)

/-- The lines of an output that are not yet among those of an earlier one, whose lines it starts
with. -/
def Output.beyond (o earlier : Output) : Output :=
  { o with
    stdout := o.stdout.drop earlier.stdout.length
    stderr := o.stderr.drop earlier.stderr.length }

/-- Lines of records, and a fault behind them, on the streams they are meant for. -/
def Output.ofLines (logging : Logging) (records : List Line) (fault : Option String) : Output :=
  let faults := (fault.map faultLine).toList
  match logging.output with
  | .stdout => { exit := none, stdout := records, stderr := faults }
  | .stderr => { exit := none, stderr := records ++ faults }

/-- What happens after the start. -/
def happenings (startups : List Startup) (signalled : Bool) : List Happening :=
  let failed := startups.filterMap (·.ended)
  let serving := startups.filter (·.ended.isNone)
  -- Nothing happens before a signal, unless a transport cannot start
  if failed.isEmpty && !signalled then []
  -- Those that serve end when they are called to
  else
    (if failed.isEmpty then [.signal] else failed.map .ended) ++
      serving.map fun _ => .ended .completed

/-- What is reported of an action. -/
def eventsOf (sink : Sink) : Action → List Event
  | .report e => [e]
  | .closeIndexer =>
    let (closed, events) := sink.close
    events ++ [.indexerClosed closed.stats.added closed.stats.failed, .stopped]
  | .raiseFlag | .join _ => []

/-- The server: its transports from start to end. -/
def serve (around : Surroundings) (s : Settings) (filter : Filter) (http grpc : String) : Output :=
  let (sink, built) := buildIndexer
  let httpStart := startHttp s.server.cors http (around.busy.contains .http)
  let grpcStart := startGrpc grpc (around.busy.contains .grpc)
  let started : List Event :=
    [ .transportStarting .http http, .transportStarting .grpc grpc,
      .started s.server.basicAuth.enabled s.server.rateLimit.enabled s.server.cors.enabled ]
  let supervisor : Supervisor := { running := 2 }
  let (last, actions) := supervisor.run (happenings [httpStart, grpcStart] around.signalled)
  let events := built ++ started ++ httpStart.events ++ grpcStart.events ++
    actions.flatMap (eventsOf sink)
  let exit := if last.isDone then some (if last.fault.isSome then 1 else 0) else none
  { Output.ofLines s.logging (recordLines s.logging filter events) last.fault with exit := exit }

/-- The server of settings, once logs and addresses are settled. -/
def start (around : Surroundings) (s : Settings) : Output :=
  match Log.thresholdOf s.logging.level with
  | .error f => .ofFault f.message
  | .ok threshold =>
    match Filter.ofTexts? threshold (around.environment.get? "RUST_LOG") with
    | none => .broken
    | some filter =>
      match s.server.httpEndpoint, s.server.grpcEndpoint with
      | .ok http, .ok grpc => serve around s filter http.text grpc.text
      | .error f, _ | _, .error f => .ofFault f.message

/-- The health check of settings. -/
def checkHealth (around : Surroundings) (s : Settings) : Output :=
  match Health.timeout? (around.environment.get? "HEALTHCHECK_TIMEOUT") with
  | none => .broken
  | some _ =>
    let url := Health.target s.server (around.environment.get? "HEALTHCHECK_URL")
    { exit := some (if Health.healthy around.network url then 0 else 1)
      stderr := ((Health.complaint? around.network url).map .text).toList }

def invoke (around : Surroundings) (i : Invocation) : Output :=
  match settingsOf around.file? around.environment i with
  | .error f => .ofFlaw f
  | .ok s =>
    match i.command with
    | .healthcheck => checkHealth around s
    | .serve => start around s

/-- The program, for arguments without its name. -/
def run (around : Surroundings) (args : List String) : Output :=
  match CommandLine.parse around.environment args with
  | .ok (.run i) => invoke around i
  | .ok (.page t) => { exit := some 0, stdout := (t.lines around.environment).map .text }
  | .ok .version => { exit := some 0, stdout := [.text CommandLine.versionLine] }
  | .error _ =>
    { exit := some 2
      stderr := [.text "For more information, try '--help'."] }

end TelemetryGateway.Lifecycle
