import Mathlib
import TelemetryGateway.Metrics.Counters

/-!
# Counting a request

A request that is recorded is counted in total, under its transport and under what became of it, each once and nowhere
else besides the latencies.

## Main definitions

- `Counters.ofTransport`, `Counters.ofOutcome`: the counters of requests, by what they count
- `Counters.recordOutcome`: one request more, whatever became of it

## Main statements

- `Counters.total_recordOutcome`, `Counters.ofTransport_recordOutcome`, `Counters.ofOutcome_recordOutcome`
- `Counters.recordOutcome_http`: what is counted over one transport and over the other
-/

namespace TelemetryGateway.Metrics.Counters

/-- The requests that came in over a transport. -/
def ofTransport (c : Counters) : Transport → UInt64
  | .http => c.http
  | .grpc => c.grpc

/-- The requests that were turned away for a reason, or accepted where there is none. -/
def ofOutcome (c : Counters) : Option Rejection → UInt64
  | none => c.accepted
  | some .unauthorized => c.unauthorized
  | some .rateLimited => c.rateLimited
  | some .invalid => c.invalid
  | some .malformed => c.malformed

/-- One request more, turned away for a reason or accepted. -/
def recordOutcome (c : Counters) (transport : Transport) (reason? : Option Rejection) (micros : UInt64) : Counters :=
  match reason? with
  | none => c.recordAccepted transport micros
  | some reason => c.recordRejected transport reason micros

variable (c : Counters) (transport : Transport) (reason? : Option Rejection) (micros : UInt64)

/-- Latencies are counted apart from the requests. -/
theorem countLatency_frame :
    (c.countLatency micros).total = c.total ∧
      (∀ transport, (c.countLatency micros).ofTransport transport = c.ofTransport transport) ∧
      ∀ reason?, (c.countLatency micros).ofOutcome reason? = c.ofOutcome reason? := by
  simp only [countLatency]
  split_ifs <;> exact ⟨rfl, fun _ => rfl, fun _ => rfl⟩

/-- What becomes of a request is counted apart from its transport. -/
theorem countTransport_frame :
    (c.countTransport transport).total = c.total ∧
      (∀ transport', (c.countTransport transport).ofTransport transport' =
        c.ofTransport transport' + if transport = transport' then 1 else 0) ∧
      ∀ reason?, (c.countTransport transport).ofOutcome reason? = c.ofOutcome reason? := by
  refine ⟨?_, fun transport' => ?_, fun reason? => ?_⟩
  · cases transport <;> rfl
  · cases transport <;> cases transport' <;> simp [countTransport, ofTransport]
  · cases transport <;> rfl

theorem recordRequest_frame :
    (c.recordRequest transport micros).total = c.total + 1 ∧
      (∀ transport', (c.recordRequest transport micros).ofTransport transport' =
        c.ofTransport transport' + if transport = transport' then 1 else 0) ∧
      ∀ reason?, (c.recordRequest transport micros).ofOutcome reason? = c.ofOutcome reason? := by
  obtain ⟨htotal, htransport, houtcome⟩ := countTransport_frame { c with total := c.total + 1 } transport
  obtain ⟨htotal', htransport', houtcome'⟩ :=
    countLatency_frame ({ c with total := c.total + 1 }.countTransport transport) micros
  refine ⟨htotal'.trans htotal, fun transport' => ?_, fun reason? => ?_⟩
  · exact (htransport' transport').trans (htransport transport')
  · exact (houtcome' reason?).trans (houtcome reason?)

theorem total_recordOutcome : (c.recordOutcome transport reason? micros).total = c.total + 1 := by
  obtain ⟨htotal, -, -⟩ := c.recordRequest_frame transport micros
  rcases reason? with _ | (_ | _ | _ | _) <;> exact htotal

theorem ofTransport_recordOutcome (transport' : Transport) :
    (c.recordOutcome transport reason? micros).ofTransport transport' =
      c.ofTransport transport' + if transport = transport' then 1 else 0 := by
  obtain ⟨-, htransport, -⟩ := c.recordRequest_frame transport micros
  rw [← htransport transport']
  rcases reason? with _ | (_ | _ | _ | _) <;> rfl

theorem ofOutcome_recordOutcome (reason?' : Option Rejection) :
    (c.recordOutcome transport reason? micros).ofOutcome reason?' =
      c.ofOutcome reason?' + if reason? = reason?' then 1 else 0 := by
  obtain ⟨-, -, houtcome⟩ := c.recordRequest_frame transport micros
  rw [← houtcome reason?']
  by_cases heq : reason? = reason?'
  · rw [← heq, if_pos rfl]
    rcases reason? with _ | (_ | _ | _ | _) <;> rfl
  · rw [if_neg heq, UInt64.add_zero]
    rcases reason? with _ | (_ | _ | _ | _) <;> rcases reason?' with _ | (_ | _ | _ | _) <;>
      first | rfl | exact absurd rfl heq

/-- Over one transport a request is counted as over the other, but for the counters of the transports. -/
theorem recordOutcome_http :
    c.recordOutcome .http reason? micros =
      { c.recordOutcome .grpc reason? micros with http := c.http + 1, grpc := c.grpc } := by
  rcases reason? with _ | (_ | _ | _ | _) <;>
    simp only [recordOutcome, recordAccepted, recordRejected, recordRequest, countTransport, countLatency] <;>
    split_ifs <;> rfl

end TelemetryGateway.Metrics.Counters
