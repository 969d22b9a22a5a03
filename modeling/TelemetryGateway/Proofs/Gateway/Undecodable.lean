import Mathlib
import TelemetryGateway.Proofs.Gateway.Traffic

/-!
# Bodies that are no packets

Bytes that decode to no packet are turned away on both transports before the limiter is asked, and nothing is offered.
The transports do not agree on the rest. Over HTTP the gateway refuses them itself and counts a request that was
malformed. Over gRPC they are turned away in front of the gateway, with a code of the transport, and nothing is counted.

## Main statements

- `Http.serve_undecodable`, `Grpc.serve_undecodable`: what the transports make of such bytes
- `Gateway.undecodable_counted_once`: the answers and the counters over both transports
-/

namespace TelemetryGateway

open TelemetryGateway.Access (presented)
open TelemetryGateway.Gateway (Moment)
open TelemetryGateway.Http (Policy)
open TelemetryGateway.Ingest (Indexer)
open TelemetryGateway.Metrics (Rejection Transport)
open TelemetryGateway.Telemetry (Packet)

variable {ι : Type} [Indexer ι]

/-- A body that is read and is no packet is refused and counted; one that is too large is not looked at. -/
theorem Http.serve_undecodable (policy : Option Policy) (g : Gateway ι) (m : Moment) (uptime : String) {r : Request}
    (hposts : r.Posts) (hbinary : isBinary r = true) (hauth : g.authorize r.authorization? = .ok ())
    (hnone : Packet.decode r.body = none) :
    let s := serve policy g m uptime r
    if r.body.length ≤ maxBody then
      s.answer.status = 400 ∧ s.answer.body = "\x7b\"error\":\"Invalid request format\"\x7d" ∧
        s.gateway = g.reject .http undecodable m.micros
    else s.answer.status = 413 ∧ s.gateway = g := by
  have hbody : decodeBody r = none := by rw [decodeBody, if_pos hbinary, hnone]
  have hhead : r.method ≠ "HEAD" := by
    rw [hposts.1]
    decide
  split
  · rename_i hsize
    obtain ⟨hgateway, hanswer⟩ := serve_post policy g m uptime hposts hsize
    simp only [hbody, Gateway.settle, hauth] at hgateway hanswer
    simp only [hgateway, hanswer, dress_status, dress_body policy hhead]
    exact ⟨rfl, by cbv, rfl⟩
  · rename_i hsize
    have hlarge : Inbound.TooLarge ⟨m, .http uptime r⟩ := Nat.lt_of_not_le hsize
    have hserve := g.serve_unread policy (x := ⟨m, .http uptime r⟩) hposts fun hread => hread.1 hlarge
    simp only [Inbound.header, hauth] at hserve
    exact ⟨beq_iff_eq.1 hserve.2, hserve.1⟩

/-- A message that is no packet does not get to the gateway. -/
theorem Grpc.serve_undecodable (g : Gateway ι) (m : Moment) {c : Call} (hsends : c.Sends)
    (hauth : g.authorize (presented c.authorization) = .ok ()) (hnone : Packet.decode c.message = none) :
    (serve g m c).gateway = g ∧
      (serve g m c).answer = if maxMessage < c.message.length then .tooLarge else .undecodable := by
  have htarget : ¬ Http.targetPath c.target ≠ sendTelemetry := not_not.2 hsends
  simp only [serve, Gateway.guard, hauth, if_neg htarget, hnone]
  split
  · exact ⟨rfl, rfl⟩
  · exact ⟨rfl, rfl⟩

namespace Gateway

/-- **Bytes that are no packet** leave limiter and indexer as they are, whoever is authorized to send them. Posted as a
body that is not too large, they are refused as malformed, and the request is counted once in total, under its
transport and under the reason. Sent as a message, they get a code that stands for no refusal, and all counters stay
as they are. -/
theorem undecodable_counted_once {bytes : List UInt8} (hnone : Packet.decode bytes = none) (policy : Option Policy)
    (g : Gateway ι) (m : Moment) :
    (∀ (uptime : String) (r : Http.Request), r.Posts → Http.isBinary r = true → r.body = bytes →
      g.authorize r.authorization? = .ok () →
        let s := Http.serve policy g m uptime r
        s.gateway.limiter = g.limiter ∧ s.gateway.indexer = g.indexer ∧
          if bytes.length ≤ Http.maxBody then
            s.answer.status = 400 ∧ s.answer.body = "\x7b\"error\":\"Invalid request format\"\x7d" ∧
              s.gateway.counters.total = g.counters.total + 1 ∧
              (∀ transport, s.gateway.counters.ofTransport transport =
                g.counters.ofTransport transport + if .http = transport then 1 else 0) ∧
              ∀ reason?, s.gateway.counters.ofOutcome reason? =
                g.counters.ofOutcome reason? + if some .malformed = reason? then 1 else 0
          else s.answer.status = 413 ∧ s.gateway.counters = g.counters) ∧
      ∀ c : Grpc.Call, c.Sends → c.message = bytes → g.authorize (presented c.authorization) = .ok () →
        let s := Grpc.serve g m c
        s.gateway = g ∧ s.answer.code = (if Grpc.maxMessage < bytes.length then 11 else 13) ∧
          s.answer.code ≠ Http.undecodable.grpcCode := by
  constructor
  · rintro uptime r hposts hbinary rfl hauth s
    have hserve := Http.serve_undecodable policy g m uptime hposts hbinary hauth hnone
    split at hserve
    · rename_i hsize
      obtain ⟨hstatus, hbody, hgateway⟩ := hserve
      have hcounters : s.gateway.counters = g.counters.recordOutcome .http (some .malformed) m.micros := by
        rw [hgateway]
        rfl
      refine ⟨by rw [hgateway]; rfl, by rw [hgateway]; rfl, ?_⟩
      rw [if_pos hsize, hcounters]
      exact ⟨hstatus, hbody, g.counters.total_recordOutcome .http _ _,
        g.counters.ofTransport_recordOutcome .http _ _, g.counters.ofOutcome_recordOutcome .http _ _⟩
    · rename_i hsize
      obtain ⟨hstatus, hgateway⟩ := hserve
      refine ⟨by rw [hgateway], by rw [hgateway], ?_⟩
      rw [if_neg hsize]
      exact ⟨hstatus, by rw [hgateway]⟩
  · rintro c hsends rfl hauth s
    obtain ⟨hgateway, hanswer⟩ := Grpc.serve_undecodable g m hsends hauth hnone
    refine ⟨hgateway, ?_⟩
    rw [hanswer]
    split
    · exact ⟨rfl, by decide⟩
    · exact ⟨rfl, by decide⟩

/-- A byte that is no packet, posted and sent by a client with the right credentials: the one is counted as malformed
and the other is not counted at all. -/
theorem undecodable_counted_once_varint :
    let r : Http.Request :=
      ⟨"POST", "/v1/telemetry",
        [("Content-Type", Text.utf8 "application/x-protobuf"), ("Authorization", Text.utf8 "Basic dTpw")], [0xff]⟩
    let c : Grpc.Call := ⟨Grpc.sendTelemetry, some (Text.utf8 "Basic dTpw"), [0xff]⟩
    let posted := Http.serve none sparing ⟨0, 7⟩ "" r
    let sent := Grpc.serve sparing ⟨0, 7⟩ c
    Packet.decode [0xff] = none ∧ posted.answer.status = 400 ∧ posted.gateway.counters.total = 1 ∧
      posted.gateway.counters.malformed = 1 ∧ sent.answer.code = 13 ∧ sent.gateway.counters.total = 0 ∧
      sent.gateway.counters.malformed = 0 := by
  intro r c posted sent
  have hnone : Packet.decode [0xff] = none := by cbv
  obtain ⟨hposted, hsent⟩ := undecodable_counted_once hnone none sparing ⟨0, 7⟩
  obtain ⟨-, -, hcounted⟩ := hposted "" r (by decide +kernel) (by decide +kernel) rfl (by decide +kernel)
  rw [if_pos (by decide)] at hcounted
  obtain ⟨hstatus, -, htotal, -, houtcome⟩ := hcounted
  obtain ⟨hgateway, hcode, -⟩ := hsent c (by decide +kernel) rfl (by decide +kernel)
  refine ⟨hnone, hstatus, htotal, houtcome (some .malformed), hcode, ?_, ?_⟩
  · exact congrArg (·.counters.total) hgateway
  · exact congrArg (·.counters.malformed) hgateway

end Gateway

end TelemetryGateway
