import Mathlib
import TelemetryGateway.Proofs.Gateway.Stages

/-!
# Traffic

Requests of all kinds that reach a gateway over both of its transports, one after the other, and the answers to them.

## Main definitions

- `Inbound`, `Answer`: what reaches a gateway, and what it answers
- `Inbound.IsTelemetry`, `Inbound.content?`: telemetry requests, and the packets in them
- `Inbound.packet?`, `Inbound.Readable`: what the transports read of them
- `Gateway.serve`, `Gateway.after`, `Gateway.transcript`: one request, and a sequence of requests
- `Answer.Says`: an answer puts a verdict into the words of its transport

## Main statements

- `Gateway.serve_readable`: a telemetry request that is read is settled and counted
- `Gateway.serve_unread`: one that is not read is checked for credentials and for nothing else
-/

namespace TelemetryGateway

open TelemetryGateway.Access (presented)
open TelemetryGateway.Admission (Arithmetic)
open TelemetryGateway.Gateway (Moment Step Verdict codesOf codesOf_eq_iff codesOf_ne reasonOf)
open TelemetryGateway.Http (Policy)
open TelemetryGateway.Ingest (Indexer Sink)
open TelemetryGateway.Metrics (Rejection Transport)
open TelemetryGateway.Telemetry (Packet)

/-! ## Requests -/

/-- A request over HTTP, at an age of the gateway, or a call over gRPC. -/
inductive Message where
  | http (uptime : String) (r : Http.Request)
  | grpc (c : Grpc.Call)

/-- What reaches a gateway, and when. -/
structure Inbound where
  moment : Moment
  message : Message

namespace Inbound

def transport (x : Inbound) : Transport :=
  match x.message with
  | .http _ _ => .http
  | .grpc _ => .grpc

/-- What the client presents to prove itself. -/
def header (x : Inbound) : Option String :=
  match x.message with
  | .http _ r => r.authorization?
  | .grpc c => presented c.authorization

/-- A packet is submitted, or what is meant for one. -/
def IsTelemetry (x : Inbound) : Prop :=
  match x.message with
  | .http _ r => r.Posts
  | .grpc c => c.Sends

instance (x : Inbound) : Decidable x.IsTelemetry :=
  match x with
  | ⟨_, .http _ r⟩ => inferInstanceAs (Decidable r.Posts)
  | ⟨_, .grpc c⟩ => inferInstanceAs (Decidable c.Sends)

/-- What is meant for a packet is larger than anything that is read. -/
def TooLarge (x : Inbound) : Prop :=
  match x.message with
  | .http _ r => Http.maxBody < r.body.length
  | .grpc c => Grpc.maxMessage < c.message.length

instance (x : Inbound) : Decidable x.TooLarge :=
  match x with
  | ⟨_, .http _ r⟩ => inferInstanceAs (Decidable (Http.maxBody < r.body.length))
  | ⟨_, .grpc c⟩ => inferInstanceAs (Decidable (Grpc.maxMessage < c.message.length))

/-- The packet that a telemetry request holds, if it holds one. -/
def content? (x : Inbound) : Option Packet :=
  match x.message with
  | .http _ r => Http.decodeBody r
  | .grpc c => Packet.decode c.message

/-- The packet that is read from a telemetry request, if any. -/
def packet? (x : Inbound) : Option Packet :=
  if x.TooLarge then none else x.content?

/-- The gateway itself has the last word on a telemetry request: what is sent is not too large, and over gRPC it holds
a packet besides. -/
def Readable (x : Inbound) : Prop :=
  ¬ x.TooLarge ∧ (x.transport = .grpc → x.content?.isSome)

/-- The page of metrics is asked for. -/
def asksMetrics (x : Inbound) : Bool :=
  match x.message with
  | .http _ r => r.path == Http.Route.metrics.path && Http.Route.metrics.methods.contains r.method
  | .grpc _ => false

/-- No packet comes of what is not read. -/
theorem packet?_of_not_readable {x : Inbound} (h : ¬ x.Readable) : x.packet? = none := by
  by_cases hsize : x.TooLarge
  · exact if_pos hsize
  · have hcontent : x.content? = none := by
      by_contra hsome
      exact h ⟨hsize, fun _ => Option.isSome_iff_ne_none.2 hsome⟩
    exact (if_neg hsize).trans hcontent

/-- Packets are submitted elsewhere. -/
theorem not_isTelemetry_of_asksMetrics {x : Inbound} (h : x.asksMetrics = true) : ¬ x.IsTelemetry := by
  obtain ⟨m, message⟩ := x
  cases message with
  | http uptime r =>
    have hpath : r.path = Http.Route.metrics.path := beq_iff_eq.1 (Bool.and_eq_true_iff.1 h).1
    intro htelemetry
    have hne : Http.Route.metrics.path ≠ Http.Route.telemetry.path := by decide
    exact hne (hpath.symm.trans htelemetry.2)
  | grpc c => cases h

end Inbound

/-! ## Answers -/

inductive Answer where
  | http (a : Http.Response)
  | grpc (o : Grpc.Outcome)
deriving DecidableEq

namespace Answer

/-- The answer has a status over HTTP, or a status code over gRPC. -/
def hasCode (status code : Nat) : Answer → Bool
  | .http a => a.status == status
  | .grpc o => o.code == code

/-- The answer tells a verdict, in the words of its transport. -/
def Says (a : Answer) (v : Verdict) : Prop :=
  match a with
  | .http a => a.status = (Http.responseOf v).status ∧ a.body = (Http.responseOf v).body
  | .grpc o => o = Grpc.outcomeOf v

/-- An answer cannot have two statuses or status codes. -/
theorem hasCode_unique {a : Answer} {status status' code code' : Nat} (h : a.hasCode status code = true)
    (h' : a.hasCode status' code' = true) : status = status' ∨ code = code' := by
  cases a with
  | http a => exact .inl ((beq_iff_eq.1 h).symm.trans (beq_iff_eq.1 h'))
  | grpc o => exact .inr ((beq_iff_eq.1 h).symm.trans (beq_iff_eq.1 h'))

/-- No verdict is told where nothing is read. -/
theorem hasCode_codesOf_of_unread {a : Answer} {code : Nat} (hcode : code = 11 ∨ code = 13)
    (h : a.hasCode 413 code = true) (reason? : Option Rejection) :
    a.hasCode (codesOf reason?).1 (codesOf reason?).2 = false := by
  obtain ⟨hstatus, hlarge, hmessage⟩ := codesOf_ne reason?
  by_contra htold
  rcases hasCode_unique h (Bool.eq_true_of_not_eq_false htold) with heq | heq
  · exact hstatus heq.symm
  · rcases hcode with rfl | rfl
    · exact hlarge heq.symm
    · exact hmessage heq.symm

/-- Both transports tell verdicts apart by the reasons, but for bodies that are no packets and packets that break a
rule. -/
theorem Says.hasCode_iff {a : Answer} {v : Verdict} (h : a.Says v) (reason? : Option Rejection) :
    a.hasCode (codesOf reason?).1 (codesOf reason?).2 = true ↔ codesOf (reasonOf v) = codesOf reason? := by
  have hstatus : (Http.responseOf v).status = (codesOf (reasonOf v)).1 := by
    rcases v with (_ | _ | _ | _) | _ <;> rfl
  have hcode : (Grpc.outcomeOf v).code = (codesOf (reasonOf v)).2 := by
    rcases v with (_ | _ | _ | _) | _ <;> rfl
  obtain ⟨hfst, hsnd⟩ := codesOf_eq_iff (reasonOf v) reason?
  cases a with
  | http a =>
    rw [← hfst, ← hstatus, ← h.1]
    exact beq_iff_eq
  | grpc o =>
    have ho : o = Grpc.outcomeOf v := h
    rw [← hsnd, ← hcode, ← ho]
    exact beq_iff_eq

end Answer

/-! ## Serving -/

namespace Gateway

variable {ι : Type} [Indexer ι] (policy : Option Policy)

def serve (g : Gateway ι) (x : Inbound) : Step ι Answer :=
  match x.message with
  | .http uptime r =>
    let s := Http.serve policy g x.moment uptime r
    { s with answer := .http s.answer }
  | .grpc c =>
    let s := Grpc.serve g x.moment c
    { s with answer := .grpc s.answer }

/-- The gateway after a sequence of requests. -/
def after (g : Gateway ι) : List Inbound → Gateway ι
  | [] => g
  | x :: xs => (g.serve policy x).gateway.after xs

/-- The requests of a sequence, with the answers to them. -/
def transcript (g : Gateway ι) : List Inbound → List (Inbound × Answer)
  | [] => []
  | x :: xs => (x, (g.serve policy x).answer) :: (g.serve policy x).gateway.transcript xs

/-- A telemetry request that is read is settled and counted, and the client is told. -/
theorem serve_readable (g : Gateway ι) {x : Inbound} (htelemetry : x.IsTelemetry) (hread : x.Readable) :
    let v := g.settle x.moment.now x.header x.packet?
    (g.serve policy x).gateway = v.2.record x.transport v.1 x.moment.micros ∧
      (g.serve policy x).answer.Says v.1 := by
  obtain ⟨hsize, hcontent⟩ := hread
  have hpacket : x.packet? = x.content? := if_neg hsize
  obtain ⟨m, message⟩ := x
  cases message with
  | http uptime r =>
    obtain ⟨hgateway, hanswer⟩ := Http.serve_post policy g m uptime htelemetry (Nat.le_of_not_lt hsize)
    have hhead : r.method ≠ "HEAD" := by
      rw [htelemetry.1]
      decide
    rw [hpacket]
    refine ⟨hgateway, ?_⟩
    show (Http.serve policy g m uptime r).answer.status = _ ∧ (Http.serve policy g m uptime r).answer.body = _
    rw [hanswer]
    exact ⟨Http.dress_status _ _ _, Http.dress_body _ hhead _⟩
  | grpc c =>
    obtain ⟨p, hp⟩ := Option.isSome_iff_exists.1 (hcontent rfl)
    rw [hpacket, hp]
    exact Grpc.serve_send g m htelemetry (Nat.le_of_not_lt hsize) hp

/-- A telemetry request that is not read is checked for credentials and for nothing else. -/
theorem serve_unread (g : Gateway ι) {x : Inbound} (htelemetry : x.IsTelemetry) (hunread : ¬ x.Readable) :
    match g.authorize x.header with
    | .error d =>
      (g.serve policy x).gateway = g.reject x.transport (.unauthorized d) x.moment.micros ∧
        (g.serve policy x).answer.Says (.error (.unauthorized d))
    | .ok _ =>
      (g.serve policy x).gateway = g ∧
        (g.serve policy x).answer.hasCode 413 (if x.TooLarge then 11 else 13) = true := by
  obtain ⟨m, message⟩ := x
  cases message with
  | http uptime r =>
    have hsize : Http.maxBody < r.body.length := by
      by_contra hsize
      exact hunread ⟨hsize, fun hgrpc => by cases hgrpc⟩
    obtain ⟨hmethod, hpath⟩ := htelemetry
    have hroute := Http.serve_route policy g m uptime hpath (by rw [hmethod]; decide)
    have htelemetry : Http.onRoute g m uptime r .telemetry = Http.telemetry g m r := rfl
    have hhead : r.method ≠ "HEAD" := by
      rw [hmethod]
      decide
    simp only [Inbound.header, Inbound.transport, serve, hroute, htelemetry, Http.telemetry, guard, hmethod,
      beq_self_eq_true, if_true]
    cases hauth : g.authorize r.authorization? with
    | error d => exact ⟨rfl, Http.dress_status _ _ _, Http.dress_body _ hhead _⟩
    | ok _ =>
      simp only [Http.post, if_pos hsize, Answer.hasCode, Http.dress_status]
      exact ⟨trivial, rfl⟩
  | grpc c =>
    have htarget : ¬ Http.targetPath c.target ≠ Grpc.sendTelemetry := not_not.2 htelemetry
    simp only [Inbound.header, Inbound.transport, serve, Grpc.serve, guard]
    cases hauth : g.authorize (presented c.authorization) with
    | error d => exact ⟨rfl, rfl⟩
    | ok _ =>
      simp only [if_neg htarget]
      by_cases hsize : Grpc.maxMessage < c.message.length
      · have hlarge : Inbound.TooLarge ⟨m, .grpc c⟩ := hsize
        simp only [if_pos hsize, if_pos hlarge]
        exact ⟨trivial, rfl⟩
      · have hlarge : ¬ Inbound.TooLarge ⟨m, .grpc c⟩ := hsize
        have hdecode : Packet.decode c.message = none := by
          by_contra hsome
          exact hunread ⟨hsize, fun _ => Option.isSome_iff_ne_none.2 hsome⟩
        simp only [if_neg hsize, if_neg hlarge, hdecode]
        exact ⟨trivial, rfl⟩

/-- A gateway that lets every key in once, and hardly more. -/
def sparing : Gateway Sink where
  limits := .create 0 0
  indices := ⟨"metrics", "logs"⟩
  credentials := some ⟨"u", "p"⟩
  limiter := .create true (Arithmetic.ofNat 2) 1
  indexer := {}

end Gateway

end TelemetryGateway
