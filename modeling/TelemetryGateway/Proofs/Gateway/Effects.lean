import Mathlib
import TelemetryGateway.Proofs.Admission.Visits
import TelemetryGateway.Proofs.Gateway.Traffic

/-!
# What a request leaves behind

A telemetry request touches the limiter and the indexer only as far as it gets: not at all if the client is not
authorized or no packet is read, the bucket of one key if the limiter is asked, and the indexer if the packet is
accepted. Requests that are dismissed before the limiter is asked can be left out of a sequence, and only the counters
tell.

## Main definitions

- `Gateway.Dismisses`: a telemetry request that ends before the limiter is asked
- `Gateway.Step.Alike`: steps with one answer, after which gateways differ in their counters at most

## Main statements

- `Gateway.settle_alike_serve`: a telemetry request leaves behind what is settled
- `Gateway.serve_other`: any other request changes nothing but counters
- `Gateway.Alike.serve`: what is counted changes no answer but the page of metrics
- `Gateway.effects_staged`: the effects of each stage, and of leaving requests out
-/

namespace TelemetryGateway

open TelemetryGateway.Access (presented)
open TelemetryGateway.Admission (Arithmetic)
open TelemetryGateway.Gateway (Moment Refusal Settled Step)
open TelemetryGateway.Http (Policy)
open TelemetryGateway.Ingest
open TelemetryGateway.Metrics (Rejection Transport)
open TelemetryGateway.Telemetry (Packet)

/-! ## Blindness for counters -/

/-- Two steps have one answer, and the gateways afterwards differ in their counters at most. -/
structure Gateway.Step.Alike {ι β : Type} (s s' : Step ι β) : Prop where
  answer : s'.answer = s.answer
  gateway : s.gateway.Alike s'.gateway

variable {ι : Type} {g g' : Gateway ι}

namespace Gateway

theorem Alike.reject (h : g.Alike g') (transport : Transport) (r : Refusal) (micros : UInt64) :
    (g.reject transport r micros).Alike (g'.reject transport r micros) :=
  ((g.reject_alike transport r micros).symm.trans h).trans (g'.reject_alike transport r micros)

theorem Alike.accept (h : g.Alike g') (transport : Transport) (micros : UInt64) :
    (g.accept transport micros).Alike (g'.accept transport micros) :=
  ((g.accept_alike transport micros).symm.trans h).trans (g'.accept_alike transport micros)

theorem Alike.guard (h : g.Alike g') (transport : Transport) (header : Option String) (micros : UInt64) :
    (g.guard transport header micros).Alike (g'.guard transport header micros) := by
  simp only [Gateway.guard, h.authorize_eq header]
  cases g.authorize header with
  | ok _ => exact ⟨rfl, h⟩
  | error d => exact ⟨rfl, h.reject transport (.unauthorized d) micros⟩

variable [Indexer ι]

/-- An indexer is told nothing of the counters. -/
theorem Alike.offered (h : g.Alike g') (p : Packet) : (g.offered p).Alike (g'.offered p) := by
  obtain ⟨c, rfl⟩ := h
  have hindexer := Desk.foldl_offer_indexer ⟨g.indexer, c, []⟩ ⟨g.indexer, g.counters, []⟩ rfl
    (due g.limits g.indices p)
  refine ⟨(Gateway.offered { g with counters := c } p).counters, ?_⟩
  simp only [Gateway.offered, hindexer]

theorem Alike.dispatch (h : g.Alike g') (p : Packet) : (g.dispatch p).Alike (g'.dispatch p) := by
  obtain ⟨hanswer, hgateway⟩ := g.dispatch_eq p
  obtain ⟨hanswer', hgateway'⟩ := g'.dispatch_eq p
  have hlimits : g'.limits = g.limits := by
    obtain ⟨c, rfl⟩ := h
    rfl
  constructor
  · rw [hanswer, hanswer', hlimits]
  · rw [hgateway, hgateway']
    exact h.offered p

theorem Alike.handle (h : g.Alike g') (transport : Transport) (now : Nat) (p : Packet) :
    (g.handle transport now p).Alike (g'.handle transport now p) := by
  have hcharged : (g.charged now p).Alike (g'.charged now p) := by
    obtain ⟨c, rfl⟩ := h
    exact ⟨c, rfl⟩
  have hdispatch := hcharged.dispatch p
  simp only [Gateway.charged, h.limiter_eq] at hcharged hdispatch
  simp only [Gateway.handle, h.limiter_eq]
  split
  · exact hdispatch
  · exact ⟨rfl, hcharged⟩

theorem Alike.ingest (h : g.Alike g') (transport : Transport) (m : Moment) (p : Packet) :
    (g.ingest transport m p).Alike (g'.ingest transport m p) := by
  obtain ⟨hanswer, hgateway⟩ := h.handle transport m.now p
  simp only [Gateway.ingest, hanswer]
  split
  · exact ⟨rfl, hgateway.accept transport m.micros⟩
  · exact ⟨rfl, hgateway.reject transport _ m.micros⟩

end Gateway

namespace Http

open Gateway

variable [Indexer ι]

theorem post_alike (h : g.Alike g') (m : Moment) (r : Request) : (post g m r).Alike (post g' m r) := by
  simp only [post]
  split
  · exact ⟨rfl, h⟩
  · split
    · exact ⟨rfl, h.reject .http undecodable m.micros⟩
    · next p _ =>
      obtain ⟨hanswer, hgateway⟩ := h.ingest .http m p
      simp only [hanswer]
      split
      · exact ⟨rfl, hgateway⟩
      · exact ⟨rfl, hgateway⟩

theorem telemetry_alike (h : g.Alike g') (m : Moment) (r : Request) :
    (telemetry g m r).Alike (telemetry g' m r) := by
  obtain ⟨hanswer, hgateway⟩ := h.guard .http r.authorization? m.micros
  simp only [telemetry, hanswer]
  split
  · exact ⟨rfl, hgateway⟩
  · split
    · exact post_alike hgateway m r
    · exact ⟨rfl, hgateway⟩

/-- Routes are blind for counters, unless it is them that are asked for. -/
theorem onRoute_alike (h : g.Alike g') (m : Moment) (uptime : String) {r : Request} {route : Route}
    (hquiet : route ≠ .metrics ∨ r.method ∉ Route.metrics.methods) :
    (onRoute g m uptime r route).Alike (onRoute g' m uptime r route) := by
  cases route with
  | telemetry => exact telemetry_alike h m r
  | health =>
    simp only [onRoute, if_true]
    split
    · exact ⟨rfl, h⟩
    · exact ⟨rfl, h⟩
  | metrics =>
    have hmethod : r.method ∉ Route.metrics.methods := hquiet.resolve_left (fun hne => hne rfl)
    simp only [onRoute, if_pos hmethod]
    exact ⟨rfl, h⟩

theorem Route.path_of_ofPath? {path : String} {route : Route} (h : Route.ofPath? path = some route) :
    route.path = path := by
  have hfound := List.find?_some h
  exact beq_iff_eq.1 hfound

/-- Answers over HTTP are blind for counters, but for the page of metrics. -/
theorem serve_alike (policy : Option Policy) (h : g.Alike g') (m : Moment) (uptime : String) {r : Request}
    (hquiet : r.path ≠ Route.metrics.path ∨ r.method ∉ Route.metrics.methods) :
    (serve policy g m uptime r).Alike (serve policy g' m uptime r) := by
  have hroutes : (serveRoutes g m uptime r).Alike (serveRoutes g' m uptime r) := by
    simp only [serveRoutes]
    cases hroute : Route.ofPath? r.path with
    | none => exact ⟨rfl, h⟩
    | some route =>
      have hquiet : route ≠ .metrics ∨ r.method ∉ Route.metrics.methods := by
        refine hquiet.imp_left fun hne heq => hne ?_
        rw [← Route.path_of_ofPath? hroute, heq]
      obtain ⟨hanswer, hgateway⟩ := onRoute_alike h m uptime hquiet
      exact ⟨congrArg (sent r) hanswer, hgateway⟩
  cases policy with
  | none => exact hroutes
  | some p =>
    simp only [serve]
    split
    · exact ⟨rfl, h⟩
    · exact ⟨congrArg (Response.extend · (p.grants r)) hroutes.answer, hroutes.gateway⟩

end Http

namespace Grpc

open Gateway

variable [Indexer ι]

theorem serve_alike (h : g.Alike g') (m : Moment) (c : Call) : (serve g m c).Alike (serve g' m c) := by
  obtain ⟨hanswer, hgateway⟩ := h.guard .grpc (presented c.authorization) m.micros
  simp only [serve, hanswer]
  split
  · exact ⟨rfl, hgateway⟩
  · split
    · exact ⟨rfl, hgateway⟩
    · split
      · exact ⟨rfl, hgateway⟩
      · split
        · exact ⟨rfl, hgateway⟩
        · next p _ =>
          obtain ⟨hanswer, hgateway⟩ := hgateway.ingest .grpc m p
          simp only [send, hanswer]
          split
          · exact ⟨rfl, hgateway⟩
          · exact ⟨rfl, hgateway⟩

end Grpc

/-! ## Requests of all kinds -/

theorem Gateway.guard_alike (g : Gateway ι) (transport : Transport) (header : Option String) (micros : UInt64) :
    g.Alike (g.guard transport header micros).gateway := by
  simp only [Gateway.guard]
  cases g.authorize header with
  | ok _ => exact .refl g
  | error d => exact g.reject_alike transport (.unauthorized d) micros

variable [Indexer ι] (policy : Option Policy)

/-- A request over HTTP that posts no packet changes nothing but counters. -/
theorem Http.serve_other (g : Gateway ι) (m : Moment) (uptime : String) {r : Request} (hother : ¬ r.Posts) :
    g.Alike (serve policy g m uptime r).gateway := by
  have hroutes : g.Alike (serveRoutes g m uptime r).gateway := by
    simp only [serveRoutes]
    cases hroute : Route.ofPath? r.path with
    | none => exact .refl g
    | some route =>
      have hpath := Route.path_of_ofPath? hroute
      cases route with
      | telemetry =>
        have hguard := g.guard_alike .http r.authorization? m.micros
        have hmethod : ¬ r.method = "POST" := fun hmethod => hother ⟨hmethod, hpath.symm⟩
        simp only [onRoute, telemetry, beq_eq_false_iff_ne.2 hmethod, Bool.false_eq_true, if_false]
        split
        · exact hguard
        · exact hguard
      | health =>
        simp only [onRoute, if_true]
        split
        · exact .refl g
        · exact .refl g
      | metrics =>
        simp only [onRoute]
        split
        · exact .refl g
        · exact ⟨_, rfl⟩
  cases policy with
  | none => exact hroutes
  | some p =>
    simp only [serve]
    split
    · exact .refl g
    · exact hroutes

namespace Gateway

/-- A request that is no telemetry changes nothing but counters. -/
theorem serve_other (g : Gateway ι) {x : Inbound} (hother : ¬ x.IsTelemetry) :
    g.Alike (g.serve policy x).gateway := by
  obtain ⟨m, message⟩ := x
  cases message with
  | http uptime r => exact Http.serve_other policy g m uptime hother
  | grpc c =>
    have hguard := g.guard_alike .grpc (presented c.authorization) m.micros
    have htarget : Http.targetPath c.target ≠ Grpc.sendTelemetry := hother
    simp only [serve, Grpc.serve, if_pos htarget]
    split
    · exact hguard
    · exact hguard

/-- A telemetry request leaves behind what is settled, but for counters. -/
theorem settle_alike_serve (g : Gateway ι) {x : Inbound} (htelemetry : x.IsTelemetry) :
    (g.settle x.moment.now x.header x.packet?).2.Alike (g.serve policy x).gateway := by
  by_cases hread : x.Readable
  · rw [(g.serve_readable policy htelemetry hread).1]
    exact record_alike ..
  · have hserve := g.serve_unread policy htelemetry hread
    rw [Inbound.packet?_of_not_readable hread]
    simp only [settle]
    cases hauth : g.authorize x.header with
    | error d =>
      rw [hauth] at hserve
      rw [hserve.1]
      exact g.reject_alike ..
    | ok _ =>
      rw [hauth] at hserve
      rw [hserve.1]
      exact .refl g

/-- What is counted changes no answer but the page of metrics. -/
theorem Alike.serve (h : g.Alike g') {x : Inbound} (hquiet : x.asksMetrics = false) :
    (g.serve policy x).Alike (g'.serve policy x) := by
  obtain ⟨m, message⟩ := x
  cases message with
  | http uptime r =>
    have hquiet : r.path ≠ Http.Route.metrics.path ∨ r.method ∉ Http.Route.metrics.methods := by
      simpa only [Inbound.asksMetrics, Bool.and_eq_false_iff, beq_eq_false_iff_ne, ne_eq,
        List.contains_eq_mem, decide_eq_false_iff_not] using hquiet
    obtain ⟨hanswer, hgateway⟩ := Http.serve_alike policy h m uptime hquiet
    exact ⟨congrArg Answer.http hanswer, hgateway⟩
  | grpc c =>
    obtain ⟨hanswer, hgateway⟩ := Grpc.serve_alike h m c
    exact ⟨congrArg Answer.grpc hanswer, hgateway⟩

/-! ## Stages -/

section Settled

variable {g left : Gateway ι} {now : Nat} {header : Option String} {packet? : Option Packet} {v : Verdict}

/-- Credentials are never changed. -/
theorem Settled.authorize_eq (hsettled : Settled g now header packet? v left) (header' : Option String) :
    left.authorize header' = g.authorize header' := by
  cases hsettled <;> rfl

/-- Without a packet of an authorized client there is nothing to do. -/
theorem settle_of_dismissed (g : Gateway ι) (h : g.authorize header ≠ .ok () ∨ packet? = none) :
    (g.settle now header packet?).2 = g := by
  simp only [settle]
  cases hauth : g.authorize header with
  | error d => rfl
  | ok _ =>
    have hnone : packet? = none := h.resolve_left fun hne => hne hauth
    rw [hnone]

/-- A packet that breaks a rule has been paid for. -/
theorem settle_of_invalid {p : Packet} {e : ValidationError} (hauth : g.authorize header = .ok ())
    (hadmitted : (g.limiter.allow p.clientKey now).1 = true) (hinvalid : validate g.limits p = .error e) :
    g.settle now header (some p) = (.error (.invalid e), g.charged now p) := by
  have hcharged : validate (g.charged now p).limits p = .error e := hinvalid
  simp only [settle, hauth, hadmitted, if_true, offered_of_invalid hcharged, verdict, hinvalid]
  rfl

/-- Who is told of the rate limit was turned away by the limiter. -/
theorem Settled.denied_of_codes (hsettled : Settled g now header packet? v left)
    (h : codesOf (reasonOf v) = codesOf (some .rateLimited)) :
    ∃ p, packet? = some p ∧ (g.limiter.allow p.clientKey now).1 = false ∧ left = g.charged now p := by
  cases hsettled with
  | rateLimited hauth hdenied => exact ⟨_, rfl, hdenied, rfl⟩
  | unauthorized => cases h
  | unreadable => cases h
  | invalid => cases h
  | accepted => cases h

/-- Whoever is turned away has nothing offered. -/
theorem Settled.accepted_of_offered (hsettled : Settled g now header packet? v left)
    (h : left.indexer ≠ g.indexer) : codesOf (reasonOf v) = codesOf none ∧ ∃ p, packet? = some p := by
  cases hsettled with
  | accepted => exact ⟨rfl, _, rfl⟩
  | unauthorized => exact absurd rfl h
  | unreadable => exact absurd rfl h
  | rateLimited => exact absurd rfl h
  | invalid => exact absurd rfl h

end Settled

/-- A telemetry request is dismissed before the limiter is asked: the client is not authorized, or no packet is
read. -/
def Dismisses (g : Gateway ι) (x : Inbound) : Prop :=
  x.IsTelemetry ∧ (g.authorize x.header ≠ .ok () ∨ x.packet? = none)

theorem serve_dismissed {x : Inbound} (h : g.Dismisses x) : g.Alike (g.serve policy x).gateway := by
  obtain ⟨htelemetry, hreason⟩ := h
  have hsettle := g.settle_alike_serve policy htelemetry
  rw [g.settle_of_dismissed hreason] at hsettle
  exact hsettle

/-- Credentials are never changed. -/
theorem serve_authorize (g : Gateway ι) (x : Inbound) (header : Option String) :
    (g.serve policy x).gateway.authorize header = g.authorize header := by
  by_cases htelemetry : x.IsTelemetry
  · rw [(g.settle_alike_serve policy htelemetry).authorize_eq]
    exact (g.settled x.moment.now x.header x.packet?).authorize_eq header
  · exact (g.serve_other policy htelemetry).authorize_eq header

/-- A client that is told a verdict got it. -/
theorem codes_of_hasCode (g : Gateway ι) {x : Inbound} (htelemetry : x.IsTelemetry) {reason? : Option Rejection}
    (h : (g.serve policy x).answer.hasCode (codesOf reason?).1 (codesOf reason?).2 = true) :
    codesOf (reasonOf (g.settle x.moment.now x.header x.packet?).1) = codesOf reason? := by
  by_cases hread : x.Readable
  · exact ((g.serve_readable policy htelemetry hread).2.hasCode_iff reason?).1 h
  · have hserve := g.serve_unread policy htelemetry hread
    simp only [settle]
    cases hauth : g.authorize x.header with
    | error d =>
      rw [hauth] at hserve
      exact (hserve.2.hasCode_iff reason?).1 h
    | ok _ =>
      rw [hauth] at hserve
      have hcode : (if x.TooLarge then 11 else 13) = 11 ∨ (if x.TooLarge then 11 else 13) = 13 := by
        split
        · exact .inl rfl
        · exact .inr rfl
      rw [Answer.hasCode_codesOf_of_unread hcode hserve.2 reason?] at h
      cases h

/-- A packet that is read gets its verdict. -/
theorem hasCode_of_packet (g : Gateway ι) {x : Inbound} {p : Packet} (htelemetry : x.IsTelemetry)
    (hpacket : x.packet? = some p) {reason? : Option Rejection}
    (h : codesOf (reasonOf (g.settle x.moment.now x.header x.packet?).1) = codesOf reason?) :
    (g.serve policy x).answer.hasCode (codesOf reason?).1 (codesOf reason?).2 = true := by
  have hread : x.Readable := by
    by_contra hunread
    rw [Inbound.packet?_of_not_readable hunread] at hpacket
    cases hpacket
  exact ((g.serve_readable policy htelemetry hread).2.hasCode_iff reason?).2 h

/-! ## Leaving requests out -/

/-- Requests that are dismissed can be left out, also between gateways that have counted differently. -/
theorem Alike.filter {keep : Inbound → Bool} {xs : List Inbound} (h : g.Alike g')
    (hkeep : ∀ x ∈ xs, keep x = false → g.Dismisses x) :
    (g.after policy xs).Alike (g'.after policy (xs.filter keep)) ∧
      (g'.transcript policy (xs.filter keep)).filter (fun e => !e.1.asksMetrics) =
        (g.transcript policy xs).filter (fun e => keep e.1 && !e.1.asksMetrics) := by
  induction xs generalizing g g' with
  | nil => exact ⟨h, rfl⟩
  | cons x xs ih =>
    have hkeep' : ∀ y ∈ xs, keep y = false → (g.serve policy x).gateway.Dismisses y := by
      intro y hmem hy
      simpa only [Dismisses, serve_authorize] using hkeep y (List.mem_cons_of_mem x hmem) hy
    cases hx : keep x with
    | false =>
      -- What is left out has no part in the rest
      have hrest := ih ((g.serve_dismissed policy (hkeep x List.mem_cons_self hx)).symm.trans h) hkeep'
      simpa only [List.filter_cons, hx, transcript, after, Bool.false_and, Bool.false_eq_true, if_false] using hrest
    | true =>
      have hgateway : (g.serve policy x).gateway.Alike (g'.serve policy x).gateway := by
        by_cases hquiet : x.asksMetrics = false
        · exact (h.serve policy hquiet).gateway
        · have hother := Inbound.not_isTelemetry_of_asksMetrics (Bool.eq_true_of_not_eq_false hquiet)
          exact ((g.serve_other policy hother).symm.trans h).trans (g'.serve_other policy hother)
      obtain ⟨hafter, htranscript⟩ := ih hgateway hkeep'
      simp only [List.filter_cons, hx, if_true, transcript, after, Bool.true_and, htranscript]
      refine ⟨hafter, ?_⟩
      cases hquiet : x.asksMetrics with
      | true => rfl
      | false => rw [(h.serve policy hquiet).answer]

/-! ## Effects -/

/-- **A request touches what it gets to, and nothing else.** Where the client is not authorized or no packet is read,
limiter and indexer stay as they are. A request that is turned away for its rate costs nothing, and a packet that is
let through and breaks a rule one token of its key; no other bucket is touched either way, and nothing is handed
over, for only accepted packets are. So dismissed requests can be left out of any sequence: limiter and indexer come
out the same, and so do all the other answers but the pages of metrics. -/
theorem effects_staged (policy : Option Policy) (g : Gateway ι) :
    (∀ x, g.Dismisses x → g.Alike (g.serve policy x).gateway) ∧
      (∀ x, x.IsTelemetry → (g.serve policy x).answer.hasCode 429 8 = true → ∃ p, x.packet? = some p ∧
        g.limiter.Charged (g.serve policy x).gateway.limiter p.clientKey x.moment.now id ∧
        (g.serve policy x).gateway.indexer = g.indexer) ∧
      (∀ x p e, x.IsTelemetry → g.authorize x.header = .ok () → x.packet? = some p →
        (g.limiter.allow p.clientKey x.moment.now).1 = true → validate g.limits p = .error e →
        (g.serve policy x).answer.hasCode 400 3 = true ∧
          g.limiter.Charged (g.serve policy x).gateway.limiter p.clientKey x.moment.now
            (fun tokens => Arithmetic.sub tokens (Arithmetic.ofNat 1)) ∧
          (g.serve policy x).gateway.indexer = g.indexer) ∧
      (∀ x, (g.serve policy x).gateway.indexer ≠ g.indexer →
        x.IsTelemetry ∧ (g.serve policy x).answer.hasCode 202 0 = true) ∧
      ∀ (keep : Inbound → Bool) (xs : List Inbound), (∀ x ∈ xs, keep x = false → g.Dismisses x) →
        (g.after policy xs).Alike (g.after policy (xs.filter keep)) ∧
          (g.transcript policy (xs.filter keep)).filter (fun e => !e.1.asksMetrics) =
            (g.transcript policy xs).filter (fun e => keep e.1 && !e.1.asksMetrics) := by
  refine ⟨?_, ?_, ?_, ?_, ?_⟩
  · intro x hdismissed
    exact serve_dismissed policy hdismissed
  · intro x htelemetry hcode
    have hsettle := g.settle_alike_serve policy htelemetry
    obtain ⟨p, hpacket, hdenied, hcharged⟩ :=
      (g.settled x.moment.now x.header x.packet?).denied_of_codes (g.codes_of_hasCode policy htelemetry hcode)
    have hcost := g.limiter.charged_allow p.clientKey x.moment.now
    rw [hdenied, if_neg Bool.false_ne_true] at hcost
    rw [hsettle.limiter_eq, hsettle.indexer_eq, hcharged]
    exact ⟨p, hpacket, hcost, rfl⟩
  · intro x p e htelemetry hauth hpacket hadmitted hinvalid
    have hsettle := g.settle_alike_serve policy htelemetry
    have hsettled := settle_of_invalid hauth hadmitted hinvalid
    rw [← hpacket] at hsettled
    have hcost := g.limiter.charged_allow p.clientKey x.moment.now
    rw [hadmitted, if_pos rfl] at hcost
    have hcode := g.hasCode_of_packet policy htelemetry hpacket (congrArg (codesOf <| reasonOf ·.1) hsettled)
    rw [hsettle.limiter_eq, hsettle.indexer_eq, hsettled]
    exact ⟨hcode, hcost, rfl⟩
  · intro x hoffered
    by_cases htelemetry : x.IsTelemetry
    · rw [(g.settle_alike_serve policy htelemetry).indexer_eq] at hoffered
      obtain ⟨hcodes, p, hpacket⟩ := (g.settled x.moment.now x.header x.packet?).accepted_of_offered hoffered
      exact ⟨htelemetry, g.hasCode_of_packet policy htelemetry hpacket hcodes⟩
    · exact absurd (g.serve_other policy htelemetry).indexer_eq hoffered
  · intro keep xs hkeep
    exact (Alike.refl g).filter policy hkeep

end Gateway

/-- An empty message, with what the client presents. -/
def Inbound.emptyCall (authorization : Option String) : Inbound where
  moment := ⟨0, 0⟩
  message := .grpc ⟨Grpc.sendTelemetry, authorization.map Text.utf8, []⟩

/-- Of three empty messages the one without credentials makes no difference; the first of the others breaks a rule and
pays for it, and the second is too early and does not pay. -/
theorem Gateway.effects_staged_sparing :
    let paid := Inbound.emptyCall (some "Basic dTpw")
    let g := sparing
    let g' := (g.serve none paid).gateway
    (g.serve none paid).answer.hasCode 400 3 = true ∧
      g.limiter.Charged g'.limiter "" 0 (fun tokens => Arithmetic.sub tokens (Arithmetic.ofNat 1)) ∧
      (g'.serve none paid).answer.hasCode 429 8 = true ∧
      (∃ p, paid.packet? = some p ∧ g'.limiter.Charged (g'.serve none paid).gateway.limiter p.clientKey 0 id) ∧
      (g.after none [.emptyCall none, paid, paid]).Alike (g.after none [paid, paid]) := by
  intro paid g g'
  obtain ⟨-, -, hinvalid, -, hfilter⟩ := effects_staged none g
  obtain ⟨-, hlimited, -⟩ := effects_staged none g'
  have htelemetry : paid.IsTelemetry := by decide +kernel
  have hdismissed : g.Dismisses (.emptyCall none) := ⟨by decide +kernel, .inl (by decide)⟩
  have hcode : (g'.serve none paid).answer.hasCode 429 8 = true := by decide +kernel
  obtain ⟨hcode', hcost, -⟩ := hinvalid paid {} .missingMetadata htelemetry (by cbv) (by cbv)
    (by decide +kernel) (by cbv)
  have hkey : ({} : Packet).clientKey = "" := by decide
  rw [hkey] at hcost
  obtain ⟨p, hpacket, hcost', -⟩ := hlimited paid htelemetry hcode
  refine ⟨hcode', hcost, hcode, ⟨p, hpacket, hcost'⟩, ?_⟩
  have hkeep : ∀ x ∈ [.emptyCall none, paid, paid], x.header.isSome = false → g.Dismisses x := by
    intro x hmem hheader
    have hpaid : paid.header.isSome = true := by decide +kernel
    rcases List.mem_cons.1 hmem with heq | hmem
    · rw [heq]
      exact hdismissed
    · have heq : x = paid := List.eq_of_mem_replicate (n := 2) hmem
      rw [heq, hpaid] at hheader
      cases hheader
  exact (hfilter (fun x => x.header.isSome) [.emptyCall none, paid, paid] hkeep).1

end TelemetryGateway
