import Mathlib
import TelemetryGateway.Grpc.Service
import TelemetryGateway.Http.Router
import TelemetryGateway.Proofs.Ingest.Delivery
import TelemetryGateway.Proofs.Metrics.Counting

/-!
# The stages of a telemetry request

A telemetry request passes the same stages on every transport: the credentials are checked, the body is read, the
limiter is asked, the packet is checked and its documents are offered. The first stage that turns it away is the last
one. What comes of it is counted afterwards, and put into the words of the transport.

## Main definitions

- `Gateway.settle`: what a telemetry request comes to, before it is counted
- `Gateway.Settled`: the same as one rule for each stage
- `Gateway.record`: counting what a request came to
- `Gateway.Alike`: gateways that differ in their counters at most
- `Http.responseOf`, `Grpc.outcomeOf`: the words of the transports

## Main statements

- `Gateway.settled`: every request ends at one of the stages
- `Http.serve_post`, `Grpc.serve_send`: the transports settle and count
-/

namespace TelemetryGateway

open TelemetryGateway.Access (Denial presented)
open TelemetryGateway.Gateway (Moment Refusal Step)
open TelemetryGateway.Ingest
open TelemetryGateway.Metrics (Counters Rejection Transport)
open TelemetryGateway.Telemetry (Packet)

namespace Gateway

/-- What a telemetry request comes to. -/
abbrev Verdict := Except Refusal Acknowledgment

/-- Why a verdict turns a request away, if it does. -/
def reasonOf : Verdict → Option Rejection
  | .ok _ => none
  | .error r => some r.reason

/-- The status over HTTP and the status code over gRPC by which a client is told. -/
def codesOf : Option Rejection → Nat × Nat
  | none => (202, 0)
  | some .unauthorized => (401, 16)
  | some .rateLimited => (429, 8)
  | some .invalid | some .malformed => (400, 3)

/-- Either of the two codes tells the other. -/
theorem codesOf_eq_iff (o o' : Option Rejection) :
    ((codesOf o).1 = (codesOf o').1 ↔ codesOf o = codesOf o') ∧
      ((codesOf o).2 = (codesOf o').2 ↔ codesOf o = codesOf o') := by
  rcases o with _ | (_ | _ | _ | _) <;> rcases o' with _ | (_ | _ | _ | _) <;> decide

variable {ι : Type}

/-- No verdict is told with the codes of a body that is not read. -/
theorem codesOf_ne (o : Option Rejection) :
    (codesOf o).1 ≠ 413 ∧ (codesOf o).2 ≠ 11 ∧ (codesOf o).2 ≠ 13 := by
  rcases o with _ | (_ | _ | _ | _) <;> decide

/-! ## Counting -/

/-- Counts what a request came to. -/
def record (g : Gateway ι) (transport : Transport) (v : Verdict) (micros : UInt64) : Gateway ι :=
  match v with
  | .ok _ => g.accept transport micros
  | .error r => g.reject transport r micros

theorem record_eq (g : Gateway ι) (transport : Transport) (v : Verdict) (micros : UInt64) :
    g.record transport v micros =
      { g with counters := g.counters.recordOutcome transport (reasonOf v) micros } := by
  cases v <;> rfl

/-- Two gateways differ in their counters at most. -/
def Alike (g g' : Gateway ι) : Prop := ∃ c, g' = { g with counters := c }

namespace Alike

variable {g g' g'' : Gateway ι}

theorem refl (g : Gateway ι) : g.Alike g := ⟨g.counters, rfl⟩

theorem symm (h : g.Alike g') : g'.Alike g := by
  obtain ⟨c, rfl⟩ := h
  exact ⟨g.counters, rfl⟩

theorem trans (h : g.Alike g') (h' : g'.Alike g'') : g.Alike g'' := by
  obtain ⟨c, rfl⟩ := h
  obtain ⟨c', rfl⟩ := h'
  exact ⟨c', rfl⟩

theorem limiter_eq (h : g.Alike g') : g'.limiter = g.limiter := by
  obtain ⟨c, rfl⟩ := h
  rfl

theorem indexer_eq (h : g.Alike g') : g'.indexer = g.indexer := by
  obtain ⟨c, rfl⟩ := h
  rfl

theorem authorize_eq (h : g.Alike g') (header : Option String) : g'.authorize header = g.authorize header := by
  obtain ⟨c, rfl⟩ := h
  rfl

end Alike

theorem reject_alike (g : Gateway ι) (transport : Transport) (r : Refusal) (micros : UInt64) :
    g.Alike (g.reject transport r micros) := ⟨_, rfl⟩

theorem accept_alike (g : Gateway ι) (transport : Transport) (micros : UInt64) :
    g.Alike (g.accept transport micros) := ⟨_, rfl⟩

theorem record_alike (g : Gateway ι) (transport : Transport) (v : Verdict) (micros : UInt64) :
    g.Alike (g.record transport v micros) := ⟨_, g.record_eq transport v micros⟩

variable [Indexer ι]

/-! ## Stages -/

omit [Indexer ι] in
/-- The gateway once its limiter has been asked about a packet. -/
def charged (g : Gateway ι) (now : Nat) (p : Packet) : Gateway ι :=
  { g with limiter := (g.limiter.allow p.clientKey now).2 }

/-- The gateway once the documents of a packet have been offered. -/
def offered (g : Gateway ι) (p : Packet) : Gateway ι :=
  let desk := (due g.limits g.indices p).foldl Desk.offer ⟨g.indexer, g.counters, []⟩
  { g with indexer := desk.indexer, counters := desk.counters }

/-- What a telemetry request comes to, by what the client presents and the packet that the body holds, if it holds
one; and the gateway before the request is counted. -/
def settle (g : Gateway ι) (now : Nat) (header : Option String) (packet? : Option Packet) :
    Verdict × Gateway ι :=
  match g.authorize header with
  | .error d => (.error (.unauthorized d), g)
  | .ok _ =>
    match packet? with
    | none => (.error Http.undecodable, g)
    | some p =>
      if (g.limiter.allow p.clientKey now).1 then
        ((verdict g.limits p).mapError .invalid, (g.charged now p).offered p)
      else (.error .rateLimited, g.charged now p)

/-- What a telemetry request comes to, by the stage that it reaches. -/
inductive Settled (g : Gateway ι) (now : Nat) (header : Option String) :
    Option Packet → Verdict → Gateway ι → Prop
  | unauthorized {packet? : Option Packet} {d : Denial} (hauth : g.authorize header = .error d) :
      Settled g now header packet? (.error (.unauthorized d)) g
  | unreadable (hauth : g.authorize header = .ok ()) :
      Settled g now header none (.error Http.undecodable) g
  | rateLimited {p : Packet} (hauth : g.authorize header = .ok ())
      (hdenied : (g.limiter.allow p.clientKey now).1 = false) :
      Settled g now header (some p) (.error .rateLimited) (g.charged now p)
  | invalid {p : Packet} {e : ValidationError} (hauth : g.authorize header = .ok ())
      (hadmitted : (g.limiter.allow p.clientKey now).1 = true) (hinvalid : validate g.limits p = .error e) :
      Settled g now header (some p) (.error (.invalid e)) (g.charged now p)
  | accepted {p : Packet} (hauth : g.authorize header = .ok ())
      (hadmitted : (g.limiter.allow p.clientKey now).1 = true)
      (hvalid : ∃ client, validate g.limits p = .ok client) :
      Settled g now header (some p) (.ok ⟨true, "Accepted"⟩) ((g.charged now p).offered p)

/-- A packet that breaks a rule changes nothing, since no documents are due. -/
theorem offered_of_invalid {g : Gateway ι} {p : Packet} {e : ValidationError}
    (hinvalid : validate g.limits p = .error e) : g.offered p = g := by
  have hdue : due g.limits g.indices p = [] := by simp only [due, hinvalid]
  simp only [offered, hdue, List.foldl_nil]

/-- Every telemetry request ends at one of the stages. -/
theorem settled (g : Gateway ι) (now : Nat) (header : Option String) (packet? : Option Packet) :
    Settled g now header packet? (g.settle now header packet?).1 (g.settle now header packet?).2 := by
  cases hauth : g.authorize header with
  | error d =>
    simp only [settle, hauth]
    exact .unauthorized hauth
  | ok _ =>
    cases packet? with
    | none =>
      simp only [settle, hauth]
      exact .unreadable hauth
    | some p =>
      cases hallow : (g.limiter.allow p.clientKey now).1 with
      | false =>
        simp only [settle, hauth, hallow, Bool.false_eq_true, if_false]
        exact .rateLimited hauth hallow
      | true =>
        simp only [settle, hauth, hallow, if_true]
        cases hvalid : validate g.limits p with
        | error e =>
          have hcharged : validate (g.charged now p).limits p = .error e := hvalid
          rw [offered_of_invalid hcharged, verdict, hvalid]
          exact .invalid hauth hallow hvalid
        | ok client =>
          rw [verdict, hvalid]
          exact .accepted hauth hallow ⟨client, hvalid⟩

/-- Until a request is recorded only its documents are counted. -/
theorem Settled.counters_eq {g left : Gateway ι} {now : Nat} {header : Option String} {packet? : Option Packet}
    {v : Verdict} (hsettled : Settled g now header packet? v left) :
    ∃ enqueued failures, left.counters = { g.counters with enqueued := enqueued, failures := failures } := by
  cases hsettled with
  | unauthorized => exact ⟨_, _, rfl⟩
  | unreadable => exact ⟨_, _, rfl⟩
  | rateLimited => exact ⟨_, _, rfl⟩
  | invalid => exact ⟨_, _, rfl⟩
  | @accepted p => exact Desk.foldl_offer_counters ⟨g.indexer, g.counters, []⟩ (due g.limits g.indices p)

/-! ## Handling a packet -/

theorem dispatch_eq (g : Gateway ι) (p : Packet) :
    (g.dispatch p).answer = (verdict g.limits p).mapError .invalid ∧
      (g.dispatch p).gateway = g.offered p := by
  have hanswer := Desk.send_fst g.limits g.indices ⟨g.indexer, g.counters, []⟩ p
  obtain ⟨hindexer, hcounters⟩ := Desk.send_indexer_counters g.limits g.indices ⟨g.indexer, g.counters, []⟩ p
  refine ⟨?_, ?_⟩
  · rw [← hanswer]
    rfl
  · simp only [offered, ← hindexer, ← hcounters]
    rfl

/-- A packet is handled and counted. -/
theorem ingest_eq_record (g : Gateway ι) (transport : Transport) (m : Moment) (p : Packet) :
    (g.ingest transport m p).answer = (g.handle transport m.now p).answer ∧
      (g.ingest transport m p).gateway =
        (g.handle transport m.now p).gateway.record transport (g.handle transport m.now p).answer m.micros := by
  simp only [ingest]
  cases (g.handle transport m.now p).answer <;> exact ⟨rfl, rfl⟩

/-- What comes of a packet before it is counted. -/
theorem handle_eq (g : Gateway ι) (transport : Transport) (now : Nat) (p : Packet) :
    let admitted := (g.limiter.allow p.clientKey now).1
    (g.handle transport now p).answer =
        (if admitted then (verdict g.limits p).mapError .invalid else .error .rateLimited) ∧
      (g.handle transport now p).gateway = if admitted then (g.charged now p).offered p else g.charged now p := by
  obtain ⟨hanswer, hgateway⟩ := (g.charged now p).dispatch_eq p
  simp only [handle]
  split
  · exact ⟨hanswer, hgateway⟩
  · exact ⟨rfl, rfl⟩

/-- A packet of an authorized client is settled and counted. -/
theorem ingest_eq {g : Gateway ι} {header : Option String} (hauth : g.authorize header = .ok ())
    (transport : Transport) (m : Moment) (p : Packet) :
    (g.ingest transport m p).answer = (g.settle m.now header (some p)).1 ∧
      (g.ingest transport m p).gateway =
        (g.settle m.now header (some p)).2.record transport (g.settle m.now header (some p)).1 m.micros := by
  have hhandle : (g.handle transport m.now p).answer = (g.settle m.now header (some p)).1 ∧
      (g.handle transport m.now p).gateway = (g.settle m.now header (some p)).2 := by
    obtain ⟨hanswer, hgateway⟩ := g.handle_eq transport m.now p
    simp only [settle, hauth, hanswer, hgateway]
    split <;> exact ⟨rfl, rfl⟩
  rw [← hhandle.1, ← hhandle.2]
  exact g.ingest_eq_record transport m p

end Gateway

/-! ## HTTP -/

namespace Http

/-- What a client of HTTP is told. -/
def responseOf : Gateway.Verdict → Response
  | .ok _ => acceptance
  | .error r => .ofRefusal r

variable {ι : Type} [Indexer ι]

/-- A packet is posted. -/
def Request.Posts (r : Request) : Prop :=
  r.method = "POST" ∧ r.path = Route.telemetry.path

instance (r : Request) : Decidable r.Posts :=
  inferInstanceAs (Decidable (r.method = "POST" ∧ r.path = Route.telemetry.path))

/-- An answer as it is sent, with what a policy has to add. -/
def dress (policy : Option Policy) (r : Request) (a : Response) : Response :=
  match policy with
  | none => sent r a
  | some p => (sent r a).extend (p.grants r)

@[simp] theorem dress_status (policy : Option Policy) (r : Request) (a : Response) :
    (dress policy r a).status = a.status := by
  have hsent : (sent r a).status = a.status := by
    simp only [sent]
    split <;> rfl
  cases policy <;> exact hsent

theorem dress_body (policy : Option Policy) {r : Request} (hhead : r.method ≠ "HEAD") (a : Response) :
    (dress policy r a).body = a.body := by
  have hsent : (sent r a).body = a.body := by
    simp only [sent, if_neg hhead]
    rfl
  cases policy <;> exact hsent

/-- A request to a route is answered by the route. -/
theorem serve_route (policy : Option Policy) (g : Gateway ι) (m : Moment) (uptime : String) {r : Request}
    {route : Route} (hroute : r.path = route.path) (hmethod : r.method ≠ "OPTIONS") :
    serve policy g m uptime r =
      { onRoute g m uptime r route with
        answer := dress policy r (onRoute g m uptime r route).answer } := by
  have hfound : Route.ofPath? r.path = some route := by
    rw [hroute]
    cases route <;> decide
  cases policy with
  | none => simp only [serve, serveRoutes, hfound, dress]
  | some p => simp only [serve, serveRoutes, hfound, dress, if_neg hmethod]

/-- A posted packet is settled and counted. -/
theorem serve_post (policy : Option Policy) (g : Gateway ι) (m : Moment) (uptime : String) {r : Request}
    (hposts : r.Posts) (hsize : r.body.length ≤ maxBody) :
    let v := g.settle m.now r.authorization? (decodeBody r)
    (serve policy g m uptime r).gateway = v.2.record .http v.1 m.micros ∧
      (serve policy g m uptime r).answer = dress policy r (responseOf v.1) := by
  obtain ⟨hmethod, hpath⟩ := hposts
  have hserve := serve_route policy g m uptime hpath (by rw [hmethod]; decide)
  have htelemetry : onRoute g m uptime r .telemetry = telemetry g m r := rfl
  rw [hserve, htelemetry]
  simp only [telemetry, Gateway.guard, hmethod, beq_self_eq_true, if_true]
  cases hauth : g.authorize r.authorization? with
  | error d =>
    simp only [Gateway.settle, hauth]
    exact ⟨rfl, rfl⟩
  | ok _ =>
    simp only [post, if_neg (Nat.not_lt.2 hsize)]
    cases hbody : decodeBody r with
    | none =>
      simp only [Gateway.settle, hauth]
      exact ⟨rfl, rfl⟩
    | some p =>
      obtain ⟨hanswer, hgateway⟩ := Gateway.ingest_eq hauth .http m p
      rw [← hgateway, ← hanswer]
      dsimp only
      cases (g.ingest .http m p).answer with
      | ok _ => exact ⟨rfl, rfl⟩
      | error _ => exact ⟨rfl, rfl⟩

end Http

/-! ## gRPC -/

namespace Grpc

/-- What comes of a call. -/
def outcomeOf : Gateway.Verdict → Outcome
  | .ok a => .acknowledged a
  | .error r => .refused r

variable {ι : Type} [Indexer ι]

/-- A packet is sent. -/
def Call.Sends (c : Call) : Prop :=
  Http.targetPath c.target = sendTelemetry

instance (c : Call) : Decidable c.Sends :=
  inferInstanceAs (Decidable (Http.targetPath c.target = sendTelemetry))

/-- A packet that is sent is settled and counted. -/
theorem serve_send (g : Gateway ι) (m : Moment) {c : Call} {p : Packet} (hsends : c.Sends)
    (hsize : c.message.length ≤ maxMessage) (hp : Packet.decode c.message = some p) :
    let v := g.settle m.now (presented c.authorization) (some p)
    (serve g m c).gateway = v.2.record .grpc v.1 m.micros ∧ (serve g m c).answer = outcomeOf v.1 := by
  simp only [serve, Gateway.guard]
  cases hauth : g.authorize (presented c.authorization) with
  | error d =>
    simp only [Gateway.settle, hauth]
    exact ⟨rfl, rfl⟩
  | ok _ =>
    have htarget : ¬ Http.targetPath c.target ≠ sendTelemetry := not_not.2 hsends
    simp only [if_neg htarget, if_neg (Nat.not_lt.2 hsize), hp, send]
    obtain ⟨hanswer, hgateway⟩ := Gateway.ingest_eq hauth .grpc m p
    rw [← hgateway, ← hanswer]
    cases (g.ingest .grpc m p).answer with
    | ok _ => exact ⟨rfl, rfl⟩
    | error _ => exact ⟨rfl, rfl⟩

end Grpc

end TelemetryGateway
