import TelemetryGateway.Access.Header
import TelemetryGateway.Gateway.State
import TelemetryGateway.Http.Target

/-!
# The gRPC interface

One method, by which a client sends a packet and gets an acknowledgment. Credentials are checked first,
for any method; a message that is too large or no packet is turned away before the gateway sees it.

## Main definitions

- `Call`: one call
- `Outcome`: a status code with a message or an acknowledgment
- `serve`: the outcome of a call, and what becomes of the gateway
-/

namespace TelemetryGateway.Grpc

open TelemetryGateway.Access (presented)
open TelemetryGateway.Gateway (Moment Refusal Step)
open TelemetryGateway.Http (targetPath)
open TelemetryGateway.Ingest (Acknowledgment Indexer)
open TelemetryGateway.Telemetry (Packet)

/-- One call. -/
structure Call where
  /-- What the call is sent to: the path of a method. -/
  target : String
  /-- The metadata by which the client proves itself. -/
  authorization : Option (List UInt8)
  message : List UInt8

/-- The one method. -/
def sendTelemetry : String := "/telegate.v1.Collector/SendTelemetry"

/-- The greatest message that is read, in bytes. -/
def maxMessage : Nat := 4 * 1024 * 1024

/-- What comes of a call. -/
inductive Outcome where
  | acknowledged (a : Acknowledgment)
  | refused (r : Refusal)
  /-- The message is larger than any that is read. -/
  | tooLarge
  /-- The message is no packet. -/
  | undecodable
  | unimplemented
deriving DecidableEq, Repr

namespace Outcome

def code : Outcome → Nat
  | .acknowledged _ => 0
  | .refused r => r.grpcCode
  | .tooLarge => 11
  | .undecodable => 13
  | .unimplemented => 12

def message? : Outcome → Option String
  | .refused r => some r.message
  | _ => none

end Outcome

variable {ι : Type} [Indexer ι]

def send (g : Gateway ι) (moment : Moment) (p : Packet) : Step ι Outcome :=
  let s := g.ingest .grpc moment p
  match s.answer with
  | .ok a => { s with answer := .acknowledged a }
  | .error r => { s with answer := .refused r }

/-- The outcome of a call, and what becomes of the gateway. -/
def serve (g : Gateway ι) (moment : Moment) (c : Call) : Step ι Outcome :=
  let s := g.guard .grpc (presented c.authorization) moment.micros
  match s.answer with
  | .error r => { s with answer := .refused r }
  | .ok _ =>
    if targetPath c.target ≠ sendTelemetry then { s with answer := .unimplemented }
    else if maxMessage < c.message.length then { s with answer := .tooLarge }
    else
      match Packet.decode c.message with
      | none => { s with answer := .undecodable }
      | some p => send s.gateway moment p

end TelemetryGateway.Grpc
