import TelemetryGateway.Settings.Basic

/-!
# Completion of settings

Settings are checked as a whole before they are used, and zeros that stand for a default are filled in.
The first flaw counts, in this order: the rate, the user name, the names of the indices, the ports, the
address.

## Main definitions

- `Flaw`: why settings cannot be used
- `Settings.complete`: settings that can be used, with all defaults filled in
-/

namespace TelemetryGateway.Settings

open TelemetryGateway.Ingest (Indices)
open TelemetryGateway.Number (Double)

/-- Why settings cannot be used. -/
inductive Flaw where
  /-- Packets are to be limited to no rate at all. -/
  | noRate (got : Double)
  /-- Senders are to be known by an empty name. -/
  | noUsername
  /-- Documents are to go to an index without a name. -/
  | noIndex
  | samePort (port : UInt16)
  | noAddress (text : String)

def Flaw.message : Flaw → String
  | .noRate got =>
    "rate limit enabled but requests_per_second not set (got " ++ got.plain ++ ")"
  | .noUsername => "basic auth enabled but username is empty"
  | .noIndex => "indexer index names must not be empty"
  | .samePort port =>
    "http_port and grpc_port must differ (both are " ++ toString port.toNat ++ ")"
  | .noAddress text => "invalid bind address: " ++ text

/-- The burst that belongs to a number of packets a second: the number rounded up, at least one. -/
def burstOf (perSecond : Double) : UInt32 :=
  UInt32.ofNat (max (Number.Real.ceilUpTo 0xFFFFFFFF perSecond.bits) 1)

/-- The limit with its burst, where packets are limited at all. -/
def RateLimit.complete (l : RateLimit) : Except Flaw RateLimit :=
  if l.enabled then
    if l.requestsPerSecond.positive && l.requestsPerSecond.finite then
      .ok { l with burst := if l.burst = 0 then burstOf l.requestsPerSecond else l.burst }
    else .error (.noRate l.requestsPerSecond)
  else .ok l

/-- A user name is given where one is asked for. -/
def BasicAuth.check (a : BasicAuth) : Except Flaw Unit :=
  if a.enabled && a.username.isEmpty then .error .noUsername else .ok ()

/-- Both indices have names. -/
def checkIndices (i : Indices) : Except Flaw Unit :=
  if i.metrics.isEmpty || i.logs.isEmpty then .error .noIndex else .ok ()

def orDefault (n : UInt64) (fallback : Nat) : UInt64 :=
  if n = 0 then .ofNat fallback else n

namespace Server

def checkPorts (s : Server) : Except Flaw Unit :=
  if s.httpPort = s.grpcPort then .error (.samePort s.httpPort) else .ok ()

/-- Where a transport with a port listens. -/
def endpoint (s : Server) (port : UInt16) : Except Flaw Net.Endpoint :=
  match s.endpoint? port with
  | some e => .ok e
  | none => .error (.noAddress s.bindAddress)

def httpEndpoint (s : Server) : Except Flaw Net.Endpoint := s.endpoint s.httpPort

def grpcEndpoint (s : Server) : Except Flaw Net.Endpoint := s.endpoint s.grpcPort

end Server

/-- The settings with all defaults filled in, or the first flaw. -/
def complete (s : Settings) : Except Flaw Settings := do
  let rateLimit ← s.server.rateLimit.complete
  s.server.basicAuth.check
  checkIndices s.indices
  s.server.checkPorts
  let _ ← s.server.httpEndpoint
  pure
    { s with
      server :=
        { s.server with
          rateLimit := rateLimit
          maxPacketBytes := orDefault s.server.maxPacketBytes Ingest.defaultMaxPacketBytes
          maxContextAttributes := orDefault s.server.maxContextAttributes Ingest.defaultMaxContextAttributes } }

end TelemetryGateway.Settings
