import Mathlib
import TelemetryGateway.Proofs.Gateway.Stages

/-!
# Both transports treat a packet alike

A packet may come in as a message of a call, as the binary body of a request, or as a request with a JSON body. The
client is told the same in the words of the transport, the same documents are offered, and the limiter is left in the
same state. The counters tell which transport it was, and nothing else does.

## Main definitions

- `Http.Request.Carries`: a request brings a packet, in the one or the other form
- `Gateway.SaysTheSame`: what an outcome over gRPC and an answer over HTTP have in common

## Main statements

- `Gateway.transports_agree`: a call and a request with one packet
-/

namespace TelemetryGateway

open TelemetryGateway.Access (presented)
open TelemetryGateway.Admission (Arithmetic)
open TelemetryGateway.Gateway (Moment)
open TelemetryGateway.Http (Policy)
open TelemetryGateway.Ingest
open TelemetryGateway.Json (Value)
open TelemetryGateway.Metrics (Counters)
open TelemetryGateway.Telemetry (Packet)

/-- The body of a request is a message if the content type says so, and otherwise the JSON form of a packet. -/
def Http.Request.Carries (r : Request) (message : List UInt8) (p : Packet) : Prop :=
  if isBinary r then r.body = message else Packet.ofJson r.body = .ok p

theorem Http.decodeBody_of_carries {r : Request} {message : List UInt8} {p : Packet}
    (hcarries : r.Carries message p) (hmessage : Packet.decode message = some p) : decodeBody r = some p := by
  simp only [Request.Carries] at hcarries
  simp only [decodeBody]
  split at hcarries
  · next hbinary => rw [if_pos hbinary, hcarries, hmessage]
  · next hjson =>
    rw [if_neg hjson, hcarries]
    rfl

namespace Gateway

/-- An outcome over gRPC and an answer over HTTP tell a client the same. -/
inductive SaysTheSame : Grpc.Outcome → Http.Response → Prop
  | accepted {a : Http.Response} (hstatus : a.status = 202) :
      SaysTheSame (.acknowledged ⟨true, "Accepted"⟩) a
  | refused {o : Grpc.Outcome} {a : Http.Response} {text : String}
      (hcodes : (o.code, a.status) ∈ [(16, 401), (8, 429), (3, 400)])
      (hmessage : o.message? = some text) (hbody : a.body = (Value.object [("error", .string text)]).text) :
      SaysTheSame o a

variable {ι : Type} [Indexer ι]

theorem Refusal.codes_mem (r : Refusal) : (r.grpcCode, r.httpStatus) ∈ [(16, 401), (8, 429), (3, 400)] := by
  cases r <;> simp [grpcCode, httpStatus]

/-- The verdict on a packet is the same in the words of both transports. -/
theorem Settled.saysTheSame {g left : Gateway ι} {now : Nat} {header : Option String} {p : Packet} {v : Verdict}
    {a : Http.Response} (hsettled : Settled g now header (some p) v left)
    (hstatus : a.status = (Http.responseOf v).status) (hbody : a.body = (Http.responseOf v).body) :
    SaysTheSame (Grpc.outcomeOf v) a := by
  have hcodes : ∀ {r : Refusal}, v = .error r → (r.grpcCode, a.status) ∈ [(16, 401), (8, 429), (3, 400)] := by
    intro r hv
    rw [hstatus, hv]
    exact r.codes_mem
  cases hsettled with
  | unauthorized => exact .refused (hcodes rfl) rfl hbody
  | rateLimited => exact .refused (hcodes rfl) rfl hbody
  | invalid => exact .refused (hcodes rfl) rfl hbody
  | accepted => exact .accepted hstatus

/-- What is left over one transport is left over the other, but for the counters of the transports. -/
theorem record_settle_http (g : Gateway ι) (now : Nat) (header : Option String) (packet? : Option Packet)
    (v : Verdict) (micros : UInt64) :
    let called := (g.settle now header packet?).2.record .grpc v micros
    (g.settle now header packet?).2.record .http v micros =
        { called with
          counters := { called.counters with http := g.counters.http + 1, grpc := g.counters.grpc } } ∧
      called.counters.http = g.counters.http ∧ called.counters.grpc = g.counters.grpc + 1 := by
  obtain ⟨enqueued, failures, hcounters⟩ := (g.settled now header packet?).counters_eq
  have hhttp : (g.settle now header packet?).2.counters.http = g.counters.http := by rw [hcounters]
  have hgrpc : (g.settle now header packet?).2.counters.grpc = g.counters.grpc := by rw [hcounters]
  have hcounted := (g.settle now header packet?).2.counters.ofTransport_recordOutcome .grpc (reasonOf v) micros
  simp only [record_eq]
  refine ⟨?_, ?_, ?_⟩
  · rw [Counters.recordOutcome_http, hhttp, hgrpc]
  · rw [← hhttp]
    exact (hcounted .http).trans (UInt64.add_zero _)
  · rw [← hgrpc]
    exact hcounted .grpc

/-- **The transports agree.** A call and a request that bring the same packet and the same proof of the client at
the same moment are told the same, with the same words where they are turned away. The gateway is left in the same
state, with the limiter and whatever the indexer keeps of its offers; only the counters of the transports differ, of
which each request moves its own. -/
theorem transports_agree (policy : Option Policy) (g : Gateway ι) (m : Moment) (uptime : String) {c : Grpc.Call}
    {r : Http.Request} {p : Packet} (hsends : c.Sends) (hposts : r.Posts)
    (hauthorization : r.authorization? = presented c.authorization)
    (hsize : c.message.length ≤ Grpc.maxMessage) (hmessage : Packet.decode c.message = some p)
    (hsize' : r.body.length ≤ Http.maxBody) (hcarries : r.Carries c.message p) :
    let called := Grpc.serve g m c
    let posted := Http.serve policy g m uptime r
    SaysTheSame called.answer posted.answer ∧
      posted.gateway =
        { called.gateway with
          counters :=
            { called.gateway.counters with http := g.counters.http + 1, grpc := g.counters.grpc } } ∧
      called.gateway.counters.http = g.counters.http ∧
      called.gateway.counters.grpc = g.counters.grpc + 1 := by
  obtain ⟨hcalled, houtcome⟩ := Grpc.serve_send g m hsends hsize hmessage
  obtain ⟨hposted, hanswer⟩ := Http.serve_post policy g m uptime hposts hsize'
  have hhead : r.method ≠ "HEAD" := by
    rw [hposts.1]
    decide
  rw [hauthorization, Http.decodeBody_of_carries hcarries hmessage] at hposted hanswer
  intro called posted
  constructor
  · have hsettled := g.settled m.now (presented c.authorization) (some p)
    simp only [called, posted, houtcome, hanswer]
    exact hsettled.saysTheSame (Http.dress_status _ _ _) (Http.dress_body _ hhead _)
  · simp only [called, posted, hcalled, hposted]
    exact g.record_settle_http m.now (presented c.authorization) (some p) _ m.micros

def briefCall : Grpc.Call where
  target := Grpc.sendTelemetry
  authorization := some (Text.utf8 "Basic dTpw")
  message := briefPacket.encode

/-- A request with a body of a content type. -/
def briefPost (contentType : String) (body : List UInt8) : Http.Request where
  method := "POST"
  target := "/v1/telemetry"
  headers := [("Authorization", Text.utf8 "Basic dTpw"), ("Content-Type", Text.utf8 contentType)]
  body := body

def briefJson : List UInt8 :=
  Text.utf8 <| "\x7b\"metadata\":\x7b\"installation_id\":\"AAAAAAAAcACAAAAAAAAAAA==\"," ++
    "\"journey_id\":\"AAAAAAAAcACAAAAAAAAAAQ==\"\x7d," ++
    "\"metrics\":\x7b\"points\":[\x7b\"client_timestamp_ms\":5\x7d]\x7d," ++
    "\"logs\":\x7b\"entries\":[\x7b\"tag\":\"t\"\x7d]\x7d\x7d"

def briefGateway : Gateway (Observed Sink) where
  limits := .create 0 0
  indices := ⟨"metrics", "logs"⟩
  credentials := some ⟨"u", "p"⟩
  limiter := .create true (Arithmetic.ofNat 2) 1
  indexer := ⟨{}, []⟩

/-- The packet is accepted in each of its three forms, and both of its documents are offered. -/
theorem transports_agree_brief :
    let called := Grpc.serve briefGateway ⟨0, 5⟩ briefCall
    let binary := Http.serve none briefGateway ⟨0, 5⟩ "" (briefPost "application/x-protobuf" briefCall.message)
    let json := Http.serve none briefGateway ⟨0, 5⟩ "" (briefPost "application/json" briefJson)
    called.answer = .acknowledged ⟨true, "Accepted"⟩ ∧ called.gateway.indexer.offers.length = 2 ∧
      SaysTheSame called.answer binary.answer ∧ SaysTheSame called.answer json.answer ∧
      binary.gateway.indexer = called.gateway.indexer ∧ json.gateway.indexer = called.gateway.indexer := by
  have hmessage : Packet.decode briefCall.message = some briefPacket := by decide +kernel
  have hparsed : Packet.ofJson briefJson = .ok briefPacket := by
    have hread : (Packet.ofJson briefJson).toOption = some briefPacket := by decide +kernel
    generalize Packet.ofJson briefJson = parsed at hread ⊢
    cases parsed with
    | error e => cases hread
    | ok p => exact congrArg Except.ok (Option.some.inj hread)
  have hbinary : (briefPost "application/x-protobuf" briefCall.message).Carries briefCall.message briefPacket := by
    simp only [Http.Request.Carries]
    rw [if_pos (by decide +kernel)]
    rfl
  have hjson : (briefPost "application/json" briefJson).Carries briefCall.message briefPacket := by
    simp only [Http.Request.Carries]
    rw [if_neg (by decide +kernel)]
    exact hparsed
  have hsends : briefCall.Sends := by decide +kernel
  have hsize : briefCall.message.length ≤ Grpc.maxMessage := by decide +kernel
  obtain ⟨hsame, hgateway, -⟩ := transports_agree none briefGateway ⟨0, 5⟩ "" hsends (by decide +kernel)
    (by decide +kernel) hsize hmessage (by decide +kernel) hbinary
  obtain ⟨hsame', hgateway', -⟩ := transports_agree none briefGateway ⟨0, 5⟩ "" hsends (by decide +kernel)
    (by decide +kernel) hsize hmessage (by decide +kernel) hjson
  refine ⟨by decide +kernel, by decide +kernel, hsame, hsame', ?_, ?_⟩
  · exact congrArg (·.indexer) hgateway
  · exact congrArg (·.indexer) hgateway'

end Gateway

end TelemetryGateway
