import TelemetryGateway.Health.Timeout
import TelemetryGateway.Http.Router

/-!
# Health checks

A process asks another one over HTTP whether it is alive, by default the one with the same settings on
the same machine.

## Main definitions

- `target`: what is asked for
- `healthy`, `complaint?`: what a check finds
-/

namespace TelemetryGateway.Health

open TelemetryGateway.Text (trim)

/-- The host of an address to listen on. An address that stands for all addresses is asked for at the
loopback one. -/
def hostOf (bindAddress : String) : String :=
  let host := trim bindAddress
  if host = "" ∨ host = "0.0.0.0" then "127.0.0.1"
  else if host = "::" ∨ host = "[::]" then "[::1]"
  else host

/-- What is asked for: another address if one is given, and otherwise where the server with these
settings answers. -/
def target (s : Settings.Server) (other : Option String) : String :=
  match other.filter fun url => trim url ≠ "" with
  | some url => url
  | none =>
    "http://" ++ hostOf s.bindAddress ++ ":" ++ toString s.httpPort.toNat ++
      Http.Route.path .health

/-- What a request for an address comes to: a status, or none where nobody can be reached. -/
abbrev Network := String → Option Nat

def healthy (network : Network) (url : String) : Bool :=
  network url = some 200

/-- What a check complains of, if it does. -/
def complaint? (network : Network) (url : String) : Option String :=
  match network url with
  | none => some ("healthcheck: " ++ url ++ " unreachable")
  | some 200 => none
  | some status => some ("healthcheck: " ++ url ++ " returned " ++ toString status)

end TelemetryGateway.Health
