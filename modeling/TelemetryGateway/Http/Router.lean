import TelemetryGateway.Gateway.State
import TelemetryGateway.Http.Cors
import TelemetryGateway.Telemetry.Form.Message

/-!
# The HTTP interface

Three paths: packets are posted to one, the other two tell whether the gateway is alive and what it has
counted. Only packets need credentials. Packets are binary if the content type says so, and JSON
otherwise.

## Main definitions

- `Route`: the paths
- `decodeBody`: the packet of a request
- `serve`: the answer to a request, and what becomes of the gateway
-/

namespace TelemetryGateway.Http

open TelemetryGateway.Access (headerText?)
open TelemetryGateway.Gateway (Moment Refusal Step)
open TelemetryGateway.Ingest (Indexer)
open TelemetryGateway.Json (Value)
open TelemetryGateway.Telemetry (Packet)
open TelemetryGateway.Text (lowercase trimChars)

/-- What can be asked for. -/
inductive Route where
  | telemetry
  | health
  | metrics
deriving DecidableEq, Repr

namespace Route

def path : Route → String
  | .telemetry => "/v1/telemetry"
  | .health => "/healthz"
  | .metrics => "/metrics"

def ofPath? (path : String) : Option Route :=
  [telemetry, health, metrics].find? fun route => route.path == path

def methods : Route → List String
  | .telemetry => ["POST"]
  | .health | .metrics => ["GET", "HEAD"]

/-- The header that names the methods of a route. -/
def allow (route : Route) : String × String :=
  ("allow", ",".intercalate route.methods)

end Route

/-- The greatest body that is read, in bytes. -/
def maxBody : Nat := 2 * 1024 * 1024

def binaryTypes : List String := ["application/x-protobuf", "application/protobuf"]

/-- The media type of a content type: what stands before the parameters, in small letters and without
the blanks around it. -/
def mediaType (contentType : String) : String :=
  lowercase (String.ofList (trimChars (contentType.toList.takeWhile (· != ';'))))

def isBinary (r : Request) : Bool :=
  match (r.header? "content-type").bind headerText? with
  | some contentType => binaryTypes.contains (mediaType contentType)
  | none => false

/-- What a refusal says of a body that is no packet; clients are told nothing of it. -/
def undecodable : Refusal := .malformed "undecodable body"

def decodeBody (r : Request) : Option Packet :=
  if isBinary r then Packet.decode r.body else (Packet.ofJson r.body).toOption

def acceptance : Response := .json 202 (.object [("status", .string "accepted")])

def tooLarge : Response :=
  .page 413 "Failed to buffer the request body: length limit exceeded"

/-- The answer where there is no route. -/
def nowhere : Response where
  status := 404

def wrongMethod (route : Route) : Response where
  status := 405
  headers := [route.allow]

variable {ι : Type} [Indexer ι]

/-- A posted packet, from a client that is authorized. -/
def post (g : Gateway ι) (moment : Moment) (r : Request) : Step ι Response :=
  if maxBody < r.body.length then { answer := tooLarge, gateway := g }
  else
    match decodeBody r with
    | none =>
      { answer := .ofRefusal undecodable
        gateway := g.reject .http undecodable moment.micros
        events := [.undecodable] }
    | some p =>
      let s := g.ingest .http moment p
      match s.answer with
      | .ok _ => { s with answer := acceptance }
      | .error refusal => { s with answer := .ofRefusal refusal }

/-- A request to the path of packets. -/
def telemetry (g : Gateway ι) (moment : Moment) (r : Request) : Step ι Response :=
  -- Credentials are asked for before anything else is looked at
  let s := g.guard .http r.authorization? moment.micros
  let posted := r.method == "POST"
  match s.answer with
  | .error refusal =>
    let answer := Response.ofRefusal refusal
    { s with answer := if posted then answer else answer.extend [Route.telemetry.allow] }
  | .ok _ =>
    if posted then post s.gateway moment r else { s with answer := wrongMethod .telemetry }

/-- A request to a route, for a gateway of an age. -/
def onRoute (g : Gateway ι) (moment : Moment) (uptime : String) (r : Request) :
    Route → Step ι Response
  | .telemetry => telemetry g moment r
  | route =>
    if r.method ∉ route.methods then { answer := wrongMethod route, gateway := g }
    else if route = .health then { answer := .page 200 "ok", gateway := g }
    else
      let s := g.exportMetrics uptime
      { s with answer := .page 200 s.answer }

/-- The answer of a route as it is sent: its length is told, and the answer to a question for the
headers alone has no body. -/
def sent (r : Request) (answer : Response) : Response :=
  let told := answer.extend [("content-length", toString answer.body.utf8ByteSize)]
  if r.method = "HEAD" then { told with body := "" } else told

/-- The answer to a request where no policy is asked for. -/
def serveRoutes (g : Gateway ι) (moment : Moment) (uptime : String) (r : Request) : Step ι Response :=
  match Route.ofPath? r.path with
  -- The length of an answer is told unless the path leads from the root to nothing
  | none => { answer := if isRooted r.path then nowhere else sent r nowhere, gateway := g }
  | some route =>
    let s := onRoute g moment uptime r route
    { s with answer := sent r s.answer }

/-- The answer to a question beforehand. -/
def answerPreflight (p : Policy) (r : Request) : Response :=
  let answer : Response := { status := 200, headers := p.preflight r }
  match Route.ofPath? r.path with
  | none => if isRooted r.path then answer else answer.extend [("content-length", "0")]
  | some route => answer.extend [route.allow, ("content-length", "0")]

/-- The answer to a request, and what becomes of the gateway. -/
def serve (policy : Option Policy) (g : Gateway ι) (moment : Moment) (uptime : String) (r : Request) :
    Step ι Response :=
  match policy with
  | none => serveRoutes g moment uptime r
  | some p =>
    -- A policy answers questions beforehand by itself, and adds its headers to all other answers
    if r.method = "OPTIONS" then { answer := answerPreflight p r, gateway := g }
    else
      let s := serveRoutes g moment uptime r
      { s with answer := s.answer.extend (p.grants r) }

end TelemetryGateway.Http
