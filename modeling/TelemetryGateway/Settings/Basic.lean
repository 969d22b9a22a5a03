import TelemetryGateway.Ingest.Dispatch
import TelemetryGateway.Net.Address
import TelemetryGateway.Number.Real

/-!
# Settings

What an operator can choose, with the choices that stand where nothing is said.

## Main definitions

- `Settings`: all choices
- `Server`, `BasicAuth`, `RateLimit`, `Cors`, `Logging`: the parts
- `Server.endpoint?`: where a transport listens
-/

namespace TelemetryGateway.Settings

open TelemetryGateway.Ingest (Indices)
open TelemetryGateway.Number (Double)
open TelemetryGateway.Text (quoted)

/-- Who may send packets. -/
structure BasicAuth where
  enabled : Bool := false
  username : String := ""
  password : String := ""
deriving DecidableEq, Inhabited

/-- The text of the part, which keeps the password to itself. -/
def BasicAuth.display (a : BasicAuth) : String :=
  "BasicAuthConfig \x7b enabled: " ++ (if a.enabled then "true" else "false") ++ ", username: " ++
    quoted a.username ++ ", password: " ++ Access.Credentials.redacted ++ " \x7d"

/-- How many packets an installation may send. -/
structure RateLimit where
  enabled : Bool := false
  requestsPerSecond : Double := .zero
  /-- The most packets at once; zero stands for the rate rounded up. -/
  burst : UInt32 := 0
deriving Inhabited

/-- Which other sites may call. -/
structure Cors where
  enabled : Bool := false
  allowedOrigins : List String := []
  allowedMethods : List String := []
  allowedHeaders : List String := []
deriving DecidableEq, Inhabited

/-- What the transports need to know. -/
structure Server where
  bindAddress : String := "0.0.0.0"
  httpPort : UInt16 := 8080
  grpcPort : UInt16 := 50051
  maxPacketBytes : UInt64 := .ofNat Ingest.defaultMaxPacketBytes
  maxContextAttributes : UInt64 := .ofNat Ingest.defaultMaxContextAttributes
  basicAuth : BasicAuth := {}
  rateLimit : RateLimit := {}
  cors : Cors := {}
deriving Inhabited

def defaultIndices : Indices := ⟨"telemetry-metrics", "telemetry-logs"⟩

/-- How log records are written. -/
inductive Encoding where
  | json
  | console
deriving DecidableEq, Inhabited, Repr

/-- Where log records go. -/
inductive Output where
  | stdout
  | stderr
deriving DecidableEq, Inhabited, Repr

/-- What is logged, how and where. -/
structure Logging where
  level : String := "info"
  encoding : Encoding := .json
  output : Output := .stdout
deriving DecidableEq, Inhabited

end TelemetryGateway.Settings

namespace TelemetryGateway

/-- All that an operator can choose. -/
structure Settings where
  server : Settings.Server := {}
  indices : Ingest.Indices := Settings.defaultIndices
  logging : Settings.Logging := {}
deriving Inhabited

end TelemetryGateway

namespace TelemetryGateway.Settings

open TelemetryGateway.Ingest (Limits)
open TelemetryGateway.Net (Address Endpoint)

/-- Where a transport with a port listens, if the address is one. -/
def Server.endpoint? (s : Server) (port : UInt16) : Option Endpoint :=
  (Address.read? s.bindAddress).map fun address => ⟨address, port⟩

/-- The bounds on packets, with the defaults for zeros. -/
def Server.limits (s : Server) : Limits :=
  .create s.maxPacketBytes.toNat s.maxContextAttributes.toNat

end TelemetryGateway.Settings
