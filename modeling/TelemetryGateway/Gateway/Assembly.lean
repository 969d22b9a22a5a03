import TelemetryGateway.Gateway.State
import TelemetryGateway.Settings.Completion

/-!
# Assembly of a gateway

The gateway that settings describe.

## Main definitions

- `Gateway.ofSettings`: the gateway of settings, over an indexer
-/

namespace TelemetryGateway

open TelemetryGateway.Access (Credentials)
open TelemetryGateway.Admission (Limiter)

/-- The credentials that settings expect, if they expect any. -/
def Settings.BasicAuth.credentials (a : Settings.BasicAuth) : Option Credentials :=
  if a.enabled then some ⟨a.username, a.password⟩ else none

def Settings.RateLimit.limiter (l : Settings.RateLimit) : Limiter Float :=
  .create l.enabled l.requestsPerSecond.toFloat l.burst

def Gateway.ofSettings {ι : Type} (s : Settings) (indexer : ι) : Gateway ι where
  limits := s.server.limits
  indices := s.indices
  credentials := s.server.basicAuth.credentials
  limiter := s.server.rateLimit.limiter
  indexer := indexer

end TelemetryGateway
