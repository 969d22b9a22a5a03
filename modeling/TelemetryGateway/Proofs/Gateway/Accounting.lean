import Mathlib
import TelemetryGateway.Proofs.Gateway.Traffic
import TelemetryGateway.Proofs.Metrics.Page
import TelemetryGateway.Proofs.Telemetry.Wire.Field

/-!
# The books agree with the answers

Each telemetry request that reaches the gateway is counted once, under its transport and under what the client is
told. What is larger than the transport takes reaches the gateway only where credentials are missing, and is counted
only then. Questions for the health and for the metrics of the gateway are not counted at all.

## Main definitions

- `Inbound.Ordinary`: the requests that books are kept of
- `Entry`: a request with its answer
- `Balanced`: counters that agree with the entries

## Main statements

- `Gateway.booked`: what one request does to the counters
- `CountedBy.after`: what is counted with each request is the number of its entries after many
- `Gateway.books_balance`: the counters after any sequence of requests, and the page that shows them
-/

namespace TelemetryGateway

open TelemetryGateway.Gateway (Moment Refusal Settled Step Verdict codesOf reasonOf)
open TelemetryGateway.Http (Policy)
open TelemetryGateway.Ingest
open TelemetryGateway.Json (Value)
open TelemetryGateway.Metrics
open TelemetryGateway.Telemetry
open TelemetryGateway.Telemetry.Wire (Schema maxDepth packetSchema)

/-! ## Entries -/

namespace Inbound

/-- A page of the gateway is asked for. -/
def Asks (x : Inbound) (route : Http.Route) : Prop :=
  match x.message with
  | .http _ r => r.method = "GET" ∧ r.path = route.path
  | .grpc _ => False

instance (x : Inbound) (route : Http.Route) : Decidable (x.Asks route) :=
  match x with
  | ⟨_, .http _ r⟩ => inferInstanceAs (Decidable (r.method = "GET" ∧ r.path = route.path))
  | ⟨_, .grpc _⟩ => inferInstanceAs (Decidable False)

/-- A packet is submitted, over HTTP in a body of any content or over gRPC in a message that holds one; or else one of
the pages is asked for. -/
def Ordinary (x : Inbound) : Prop :=
  x.IsTelemetry ∧ (x.transport = .grpc → x.content?.isSome) ∨ x.Asks .health ∨ x.Asks .metrics

instance (x : Inbound) : Decidable x.Ordinary :=
  inferInstanceAs (Decidable (_ ∧ _ ∨ _ ∨ _))

theorem Asks.not_isTelemetry {x : Inbound} {route : Http.Route} (h : x.Asks route) (hne : route ≠ .telemetry) :
    ¬ x.IsTelemetry := by
  obtain ⟨m, message⟩ := x
  cases message with
  | http uptime r =>
    intro htelemetry
    have hpath : route.path = Http.Route.telemetry.path := h.2.symm.trans htelemetry.2
    cases route with
    | telemetry => exact hne rfl
    | health => exact absurd hpath (by decide)
    | metrics => exact absurd hpath (by decide)
  | grpc c => exact h.elim

end Inbound

/-- A request with its answer. -/
abbrev Entry := Inbound × Answer

namespace Entry

/-- A telemetry request, unless the transport stopped it for its size. -/
def arrived (e : Entry) : Bool :=
  decide e.1.IsTelemetry && !(decide e.1.TooLarge && e.2.hasCode 413 11)

/-- The client was told that the body is no packet, and it is none. -/
def undecodable (e : Entry) : Bool :=
  e.1.content?.isNone &&
    match e.2 with
    | .http a => a.status == 400 && a.body == (Value.object [("error", .string "Invalid request format")]).text
    | .grpc _ => false

end Entry

/-- Counters that agree with the entries, up to the size of a counter. -/
structure Balanced (c : Counters) (entries : List Entry) : Prop where
  total : c.total = .ofNat (entries.countP Entry.arrived)
  http : c.http = .ofNat (entries.countP fun e => Entry.arrived e && e.1.transport == .http)
  grpc : c.grpc = .ofNat (entries.countP fun e => Entry.arrived e && e.1.transport == .grpc)
  accepted : c.accepted = .ofNat (entries.countP fun e => e.2.hasCode 202 0)
  unauthorized : c.unauthorized = .ofNat (entries.countP fun e => e.2.hasCode 401 16)
  rateLimited : c.rateLimited = .ofNat (entries.countP fun e => e.2.hasCode 429 8)
  refused : c.invalid + c.malformed = .ofNat (entries.countP fun e => e.2.hasCode 400 3)
  malformed : c.malformed = .ofNat (entries.countP Entry.undecodable)

/-! ## One request -/

/-- The client of a telemetry request is told a verdict that fits what the request holds: a packet that breaks a rule,
or over HTTP a body that is no packet. -/
structure Told (x : Inbound) (a : Answer) (v : Verdict) : Prop where
  telemetry : x.IsTelemetry
  said : a.Says v
  invalid : reasonOf v = some .invalid → x.content?.isSome
  malformed : reasonOf v = some .malformed →
    v = .error Http.undecodable ∧ x.content? = none ∧ ∃ r, a = .http r

/-- What a request with an answer does to the counters. -/
inductive Booked (c : Counters) (x : Inbound) (a : Answer) : Counters → Prop
  | settled {v : Verdict} {enqueued failures : UInt64} (htold : Told x a v) :
      Booked c x a
        ({ c with enqueued := enqueued, failures := failures }.recordOutcome
          x.transport (reasonOf v) x.moment.micros)
  | stopped (hlarge : x.TooLarge) (hcode : a.hasCode 413 11 = true) : Booked c x a c
  | page {r : Http.Response} {keys : Nat} (hother : ¬ x.IsTelemetry) (hanswer : a = .http r)
      (hstatus : r.status = 200) : Booked c x a { c with trackedKeys := keys }

namespace Gateway

variable {ι : Type} [Indexer ι] (policy : Option Policy)

theorem serve_health (g : Gateway ι) {x : Inbound} (hasks : x.Asks .health) :
    (g.serve policy x).gateway = g ∧ ∃ r, (g.serve policy x).answer = .http r ∧ r.status = 200 := by
  obtain ⟨m, message⟩ := x
  cases message with
  | grpc c => exact hasks.elim
  | http uptime r =>
    obtain ⟨hmethod, hpath⟩ := hasks
    have hroute := Http.serve_route policy g m uptime hpath (by rw [hmethod]; decide)
    have hhealth : Http.onRoute g m uptime r .health = { answer := .page 200 "ok", gateway := g } := by
      simp only [Http.onRoute, hmethod]
      rfl
    rw [hhealth] at hroute
    simp only [serve, hroute]
    exact ⟨trivial, _, rfl, Http.dress_status _ _ _⟩

/-- The page of metrics shows the counters with the keys as they are now. -/
theorem serve_metrics (g : Gateway ι) (m : Moment) (uptime : String) {r : Http.Request} (hmethod : r.method = "GET")
    (hpath : r.path = Http.Route.metrics.path) :
    (Http.serve policy g m uptime r).gateway = g.refreshKeys ∧
      (Http.serve policy g m uptime r).answer.status = 200 ∧
      (Http.serve policy g m uptime r).answer.body = exposition uptime g.refreshKeys.counters := by
  have hroute := Http.serve_route policy g m uptime hpath (by rw [hmethod]; decide)
  have hmetrics : Http.onRoute g m uptime r .metrics =
      { answer := .page 200 (exposition uptime g.refreshKeys.counters), gateway := g.refreshKeys } := by
    simp only [Http.onRoute, hmethod]
    rfl
  rw [hmetrics] at hroute
  rw [hroute]
  exact ⟨rfl, Http.dress_status _ _ _, Http.dress_body _ (by rw [hmethod]; decide) _⟩

/-- Where a packet is read it cannot be malformed, and without one it cannot break a rule. -/
theorem Settled.packet_of_reason {g left : Gateway ι} {now : Nat} {header : Option String}
    {packet? : Option Packet} {v : Verdict} (hsettled : Settled g now header packet? v left) :
    (reasonOf v = some .invalid → packet?.isSome) ∧
      (reasonOf v = some .malformed → v = .error Http.undecodable ∧ packet? = none) := by
  cases hsettled with
  | unauthorized => exact ⟨nofun, nofun⟩
  | unreadable => exact ⟨nofun, fun _ => ⟨rfl, rfl⟩⟩
  | rateLimited => exact ⟨fun _ => rfl, nofun⟩
  | invalid => exact ⟨fun _ => rfl, nofun⟩
  | accepted => exact ⟨fun _ => rfl, nofun⟩

/-- Every ordinary request is booked. -/
theorem booked (g : Gateway ι) {x : Inbound} (hordinary : x.Ordinary) :
    Booked g.counters x (g.serve policy x).answer (g.serve policy x).gateway.counters := by
  rcases hordinary with ⟨htelemetry, hgrpc⟩ | hhealth | hmetrics
  · by_cases hread : x.Readable
    · obtain ⟨hgateway, hsaid⟩ := g.serve_readable policy htelemetry hread
      have hpacket : x.packet? = x.content? := if_neg hread.1
      have hsettled := g.settled x.moment.now x.header x.packet?
      obtain ⟨enqueued, failures, hcounters⟩ := hsettled.counters_eq
      obtain ⟨hinvalid, hmalformed⟩ := hsettled.packet_of_reason
      rw [hgateway, record_eq, hcounters]
      refine .settled ⟨htelemetry, hsaid, ?_, ?_⟩
      · rw [← hpacket]
        exact hinvalid
      · intro hreason
        obtain ⟨hv, hnone⟩ := hmalformed hreason
        rw [hpacket] at hnone
        refine ⟨hv, hnone, ?_⟩
        obtain ⟨m, message⟩ := x
        cases message with
        | http uptime r => exact ⟨_, rfl⟩
        | grpc c =>
          have hsome := hgrpc rfl
          rw [hnone] at hsome
          cases hsome
    -- Nothing but its size keeps an ordinary request from being read
    · have hlarge : x.TooLarge := by
        by_contra hsize
        exact hread ⟨hsize, hgrpc⟩
      have hserve := g.serve_unread policy htelemetry hread
      cases hauth : g.authorize x.header with
      | error d =>
        rw [hauth] at hserve
        have hcounters : (g.reject x.transport (.unauthorized d) x.moment.micros).counters =
            { g.counters with enqueued := g.counters.enqueued, failures := g.counters.failures }.recordOutcome
              x.transport (reasonOf (.error (.unauthorized d))) x.moment.micros := rfl
        rw [hserve.1, hcounters]
        exact .settled ⟨htelemetry, hserve.2, nofun, nofun⟩
      | ok _ =>
        rw [hauth, if_pos hlarge] at hserve
        rw [hserve.1]
        exact .stopped hlarge hserve.2
  · obtain ⟨hgateway, r, hanswer, hstatus⟩ := g.serve_health policy hhealth
    rw [hgateway]
    show Booked g.counters x _ { g.counters with trackedKeys := g.counters.trackedKeys }
    exact .page (hhealth.not_isTelemetry (by decide)) hanswer hstatus
  · have hother := hmetrics.not_isTelemetry (by decide)
    obtain ⟨m, message⟩ := x
    cases message with
    | grpc c => exact hmetrics.elim
    | http uptime r =>
      obtain ⟨hgateway, hstatus, -⟩ := g.serve_metrics policy m uptime hmetrics.1 hmetrics.2
      have hcounters : (g.serve policy ⟨m, .http uptime r⟩).gateway.counters =
          { g.counters with trackedKeys := g.limiter.trackedKeys } := congrArg Gateway.counters hgateway
      rw [hcounters]
      exact .page hother rfl hstatus

end Gateway

/-! ## Counting entries -/

/-- A quantity of the counters grows by one with each entry of a kind. -/
structure CountedBy (measure : Counters → UInt64) (kind : Entry → Bool) : Prop where
  grows {c c' : Counters} {x : Inbound} {a : Answer} (hbooked : Booked c x a c') :
    measure c' = measure c + if kind (x, a) then 1 else 0

/-- What grows by one with each entry of a kind is the number of them. -/
theorem CountedBy.after {ι : Type} [Indexer ι] (policy : Option Policy) {measure : Counters → UInt64}
    {kind : Entry → Bool} (hcounted : CountedBy measure kind) (g : Gateway ι) {xs : List Inbound}
    (hordinary : ∀ x ∈ xs, x.Ordinary) :
    measure (g.after policy xs).counters =
      measure g.counters + .ofNat ((g.transcript policy xs).countP kind) := by
  induction xs generalizing g with
  | nil => exact (UInt64.add_zero _).symm
  | cons x xs ih =>
    have hstep := hcounted.grows (g.booked policy (hordinary x List.mem_cons_self))
    have hrest := ih (g.serve policy x).gateway fun y hy => hordinary y (List.mem_cons_of_mem x hy)
    have hone : UInt64.ofNat (if kind (x, (g.serve policy x).answer) then 1 else 0) =
        if kind (x, (g.serve policy x).answer) then 1 else 0 := by
      split <;> rfl
    rw [Gateway.after, Gateway.transcript, hrest, hstep, List.countP_cons, UInt64.ofNat_add, hone,
      UInt64.add_assoc, UInt64.add_comm (UInt64.ofNat _)]

/-- It is enough to look at settled requests, where others are of no such kind. -/
theorem CountedBy.of_settled {measure : Counters → UInt64} {kind : Entry → Bool}
    (hsettled : ∀ (c : Counters) (enqueued failures : UInt64) {x : Inbound} {a : Answer} {v : Verdict}, Told x a v →
      measure ({ c with enqueued := enqueued, failures := failures }.recordOutcome
          x.transport (reasonOf v) x.moment.micros) =
        measure c + if kind (x, a) then 1 else 0)
    (hframe : ∀ (c : Counters) (keys : Nat), measure { c with trackedKeys := keys } = measure c)
    (hstopped : ∀ {x : Inbound} {a : Answer}, x.TooLarge → a.hasCode 413 11 = true → kind (x, a) = false)
    (hpage : ∀ {x : Inbound} {r : Http.Response}, ¬ x.IsTelemetry → r.status = 200 → kind (x, .http r) = false) :
    CountedBy measure kind := by
  constructor
  intro c c' x a hbooked
  cases hbooked with
  | settled htold => exact hsettled c _ _ htold
  | stopped hlarge hcode => simp only [hstopped hlarge hcode, Bool.false_eq_true, if_false, UInt64.add_zero]
  | page hother hanswer hstatus =>
    simp only [hanswer, hframe, hpage hother hstatus, Bool.false_eq_true, if_false, UInt64.add_zero]

/-- Who is told a verdict has arrived. -/
theorem Told.arrived {x : Inbound} {a : Answer} {v : Verdict} (htold : Told x a v) : Entry.arrived (x, a) = true := by
  have hown := (htold.said.hasCode_iff (reasonOf v)).2 rfl
  have hcode : a.hasCode 413 11 = false := by
    by_contra hstopped
    rw [Answer.hasCode_codesOf_of_unread (.inl rfl) (Bool.eq_true_of_not_eq_false hstopped)] at hown
    cases hown
  simp only [Entry.arrived, htold.telemetry, hcode, decide_true, Bool.and_false, Bool.not_false, Bool.and_self]

theorem countedBy_total : CountedBy Counters.total Entry.arrived := by
  refine .of_settled ?_ (fun _ _ => rfl) ?_ ?_
  · intro c enqueued failures x a v htold
    rw [if_pos htold.arrived]
    exact Counters.total_recordOutcome ..
  · intro x a hlarge hcode
    simp only [Entry.arrived, hlarge, hcode, decide_true, Bool.and_self, Bool.not_true, Bool.and_false]
  · intro x r hother _
    simp only [Entry.arrived, hother, decide_false, Bool.false_and]

theorem countedBy_ofTransport (transport : Transport) :
    CountedBy (·.ofTransport transport) fun e => Entry.arrived e && e.1.transport == transport := by
  refine .of_settled ?_ (fun _ _ => rfl) ?_ ?_
  · intro c enqueued failures x a v htold
    simp only [htold.arrived, Bool.true_and, beq_iff_eq]
    exact Counters.ofTransport_recordOutcome ..
  · intro x a hlarge hcode
    simp only [Entry.arrived, hlarge, hcode, decide_true, Bool.and_self, Bool.not_true, Bool.and_false,
      Bool.false_and]
  · intro x r hother _
    simp only [Entry.arrived, hother, decide_false, Bool.false_and]

/-- A page has the codes of no verdict. -/
theorem hasCode_codesOf_of_page {r : Http.Response} (hstatus : r.status = 200) (reason? : Option Rejection) :
    (Answer.http r).hasCode (codesOf reason?).1 (codesOf reason?).2 = false := by
  rw [Answer.hasCode, hstatus]
  rcases reason? with _ | (_ | _ | _ | _) <;> rfl

/-- What is counted by the codes of a verdict is no request that was stopped, and no page. -/
theorem CountedBy.of_codes {measure : Counters → UInt64} (reason? : Option Rejection)
    (hsettled : ∀ (c : Counters) (enqueued failures : UInt64) {x : Inbound} {a : Answer} {v : Verdict}, Told x a v →
      measure ({ c with enqueued := enqueued, failures := failures }.recordOutcome
          x.transport (reasonOf v) x.moment.micros) =
        measure c + if codesOf (reasonOf v) = codesOf reason? then 1 else 0)
    (hframe : ∀ (c : Counters) (keys : Nat), measure { c with trackedKeys := keys } = measure c) :
    CountedBy measure fun e => e.2.hasCode (codesOf reason?).1 (codesOf reason?).2 := by
  refine .of_settled ?_ hframe ?_ ?_
  · intro c enqueued failures x a v htold
    simp only [htold.said.hasCode_iff]
    exact hsettled c enqueued failures htold
  · intro x a _ hcode
    exact Answer.hasCode_codesOf_of_unread (.inl rfl) hcode reason?
  · intro x r _ hstatus
    exact hasCode_codesOf_of_page hstatus reason?

/-- What clients are told by codes of its own is counted by itself. -/
theorem countedBy_ofOutcome (reason? : Option Rejection) (hinvalid : reason? ≠ some .invalid)
    (hmalformed : reason? ≠ some .malformed) :
    CountedBy (·.ofOutcome reason?) fun e => e.2.hasCode (codesOf reason?).1 (codesOf reason?).2 := by
  have hown : ∀ o, codesOf o = codesOf reason? ↔ o = reason? := by
    intro o
    rcases reason? with _ | (_ | _ | _ | _) <;> rcases o with _ | (_ | _ | _ | _) <;>
      simp [codesOf] at hinvalid hmalformed ⊢
  refine .of_codes reason? ?_ fun _ _ => rfl
  intro c enqueued failures x a v _
  simp only [hown]
  exact Counters.ofOutcome_recordOutcome ..

theorem countedBy_refused : CountedBy (fun c => c.invalid + c.malformed) fun e => e.2.hasCode 400 3 := by
  refine .of_codes (some .invalid) ?_ fun _ _ => rfl
  intro c enqueued failures x a v _
  have hgrown := ({ c with enqueued := enqueued, failures := failures } : Counters).ofOutcome_recordOutcome
    x.transport (reasonOf v) x.moment.micros
  have hinvalid := hgrown (some .invalid)
  have hmalformed := hgrown (some .malformed)
  simp only [Counters.ofOutcome] at hinvalid hmalformed
  simp only [hinvalid, hmalformed]
  rcases reasonOf v with _ | (_ | _ | _ | _) <;> simp [codesOf] <;> ac_rfl

theorem Entry.hasCode_of_undecodable {e : Entry} (h : e.undecodable = true) : e.2.hasCode 400 3 = true := by
  obtain ⟨x, a⟩ := e
  have htold := (Bool.and_eq_true_iff.1 h).2
  cases a with
  | http r => exact (Bool.and_eq_true_iff.1 htold).1
  | grpc o => cases htold

/-- Who is told that the body is no packet is turned away for that reason. -/
theorem Told.undecodable_iff {x : Inbound} {a : Answer} {v : Verdict} (htold : Told x a v) :
    Entry.undecodable (x, a) = true ↔ reasonOf v = some .malformed := by
  constructor
  · intro h
    have hnone := Option.isNone_iff_eq_none.1 (Bool.and_eq_true_iff.1 h).1
    have hcodes := (htold.said.hasCode_iff (some .invalid)).1 (Entry.hasCode_of_undecodable h)
    rcases hreason : reasonOf v with _ | (_ | _ | _ | _)
    · rw [hreason] at hcodes
      cases hcodes
    · rw [hreason] at hcodes
      cases hcodes
    · rw [hreason] at hcodes
      cases hcodes
    -- A packet that breaks a rule has been read
    · have hsome := htold.invalid hreason
      rw [hnone] at hsome
      cases hsome
    · rfl
  · intro hreason
    obtain ⟨hv, hnone, r, ha⟩ := htold.malformed hreason
    have hsaid := htold.said
    rw [ha, hv] at hsaid
    obtain ⟨hstatus, hbody⟩ := hsaid
    simp only [Entry.undecodable, hnone, ha, hstatus, hbody, Option.isNone_none, Bool.true_and]
    decide

theorem countedBy_malformed : CountedBy Counters.malformed Entry.undecodable := by
  -- Those that were stopped and the pages lack the codes already
  have hnot : ∀ {x : Inbound} {a : Answer}, a.hasCode 400 3 = false → Entry.undecodable (x, a) = false := by
    intro x a hcode
    exact Bool.eq_false_iff.2 fun h => Bool.eq_false_iff.1 hcode (Entry.hasCode_of_undecodable h)
  refine .of_settled ?_ (fun _ _ => rfl) ?_ ?_
  · intro c enqueued failures x a v htold
    simp only [htold.undecodable_iff]
    exact Counters.ofOutcome_recordOutcome _ _ _ _ (some .malformed)
  · intro x a _ hcode
    exact hnot (Answer.hasCode_codesOf_of_unread (.inl rfl) hcode (some .invalid))
  · intro x r _ hstatus
    exact hnot (hasCode_codesOf_of_page hstatus (some .invalid))

/-! ## The books -/

namespace Gateway

variable {ι : Type} [Indexer ι] (policy : Option Policy)

/-- After any ordinary requests the counters of a new gateway agree with the answers. -/
theorem balanced_after {g : Gateway ι} (hfresh : g.counters = {}) {xs : List Inbound}
    (hordinary : ∀ x ∈ xs, x.Ordinary) :
    Balanced (g.after policy xs).counters (g.transcript policy xs) := by
  have hfrom : ∀ {measure : Counters → UInt64} {kind : Entry → Bool}, CountedBy measure kind → measure {} = 0 →
      measure (g.after policy xs).counters = .ofNat ((g.transcript policy xs).countP kind) := by
    intro measure kind hcounted hzero
    rw [hcounted.after policy g hordinary, hfresh, hzero, UInt64.zero_add]
  exact {
    total := hfrom countedBy_total rfl
    http := hfrom (countedBy_ofTransport .http) rfl
    grpc := hfrom (countedBy_ofTransport .grpc) rfl
    accepted := hfrom (countedBy_ofOutcome none nofun nofun) rfl
    unauthorized := hfrom (countedBy_ofOutcome (some .unauthorized) nofun nofun) rfl
    rateLimited := hfrom (countedBy_ofOutcome (some .rateLimited) nofun nofun) rfl
    refused := hfrom countedBy_refused rfl
    malformed := hfrom countedBy_malformed rfl }

/-- **The books balance.** After any ordinary requests to a new gateway the counters agree with the answers. Whoever
asks for its health changes nothing; who asks for its metrics has the keys counted anew and gets a page that shows the
counters as they are. -/
theorem books_balance {g : Gateway ι} (hfresh : g.counters = {}) {xs : List Inbound}
    (hordinary : ∀ x ∈ xs, x.Ordinary) :
    let left := g.after policy xs
    Balanced left.counters (g.transcript policy xs) ∧
      (∀ x, x.Asks .health → (left.serve policy x).gateway = left) ∧
      ∀ m uptime r, r.method = "GET" → r.path = Http.Route.metrics.path →
        let shown := { left.counters with trackedKeys := left.limiter.trackedKeys }
        let s := Http.serve policy left m uptime r
        s.gateway = { left with counters := shown } ∧ s.answer.status = 200 ∧
          s.answer.body = exposition uptime shown ∧
          ∀ entry ∈ books shown, Shows s.answer.body entry.1 entry.2 := by
  intro left
  refine ⟨balanced_after policy hfresh hordinary, fun x hasks => ?_, fun m uptime r hmethod hpath => ?_⟩
  · exact (left.serve_health policy hasks).1
  · intro shown s
    obtain ⟨hgateway, hstatus, hbody⟩ := left.serve_metrics policy m uptime hmethod hpath
    refine ⟨hgateway, hstatus, hbody, ?_⟩
    rw [hbody]
    exact exposition_shows_books uptime shown

/-- A body that is no packet, an empty message without credentials and two with them, and a question for the health of
the gateway. -/
def mixedTraffic : List Inbound :=
  let proof := Text.utf8 "Basic dTpw"
  [ ⟨⟨0, 7⟩, .http "" ⟨"POST", "/v1/telemetry", [("authorization", proof)], [0x21]⟩⟩,
    ⟨⟨0, 7⟩, .grpc ⟨Grpc.sendTelemetry, none, []⟩⟩,
    ⟨⟨0, 7⟩, .grpc ⟨Grpc.sendTelemetry, some proof, []⟩⟩,
    ⟨⟨0, 7⟩, .grpc ⟨Grpc.sendTelemetry, some proof, []⟩⟩,
    ⟨⟨0, 7⟩, .http "" ⟨"GET", "/healthz", [], []⟩⟩ ]

/-- Four requests are turned away for four reasons, and the page says so. -/
theorem books_balance_mixedTraffic :
    let left := sparing.after none mixedTraffic
    let page := (Http.serve none left ⟨0, 7⟩ "" ⟨"GET", "/metrics", [], []⟩).answer.body
    Balanced left.counters (sparing.transcript none mixedTraffic) ∧
      (left.counters.malformed, left.counters.unauthorized, left.counters.invalid, left.counters.rateLimited) =
        (1, 1, 1, 1) ∧
      Shows page "telegate_requests_total" "4" ∧ Shows page "telegate_rate_limiter_keys" "1" := by
  intro left page
  have hordinary : ∀ x ∈ mixedTraffic, x.Ordinary := by decide +kernel
  obtain ⟨hbalanced, -, hpage⟩ := books_balance none (g := sparing) rfl hordinary
  obtain ⟨-, -, -, hshows⟩ := hpage ⟨0, 7⟩ "" ⟨"GET", "/metrics", [], []⟩ rfl (by decide +kernel)
  have htotal : toString left.counters.total.toNat = "4" := by decide +kernel
  have hkeys : toString left.limiter.trackedKeys = "1" := by decide +kernel
  have htotalShown := hshows ("telegate_requests_total", toString left.counters.total.toNat) (by simp [left, books])
  have hkeysShown := hshows ("telegate_rate_limiter_keys", toString left.limiter.trackedKeys) (by simp [left, books])
  rw [htotal] at htotalShown
  rw [hkeys] at hkeysShown
  exact ⟨hbalanced, by decide +kernel, htotalShown, hkeysShown⟩

end Gateway

/-! ## Calls that are too large -/

/-- A telemetry request that is too large leaves no trace if its client is authorized. -/
theorem Gateway.after_of_tooLarge {ι : Type} [Indexer ι] (policy : Option Policy) {g : Gateway ι} {x : Inbound}
    (htelemetry : x.IsTelemetry) (hlarge : x.TooLarge) (hauth : g.authorize x.header = .ok ()) :
    g.after policy [x] = g ∧ (g.transcript policy [x]).countP (fun e => decide e.1.IsTelemetry) = 1 := by
  have hserve := g.serve_unread policy htelemetry fun hread => hread.1 hlarge
  rw [hauth] at hserve
  refine ⟨hserve.1, ?_⟩
  simp only [Gateway.transcript, List.countP_singleton, htelemetry, decide_true, if_true]

/-- A field that no packet has is skipped, whatever it carries. -/
theorem decode_skipped {f : Wire.Field} (hsound : f.Sound packetSchema.byLength)
    (hslot : packetSchema.slot? f.number = none) : Packet.decode f.write = some {} := by
  have hread : Wire.Field.readAll packetSchema.byLength maxDepth ([f].flatMap Wire.Field.write) = some [f] := by
    refine Wire.Field.readAll_write (fun f' hf' => ?_) maxDepth
    rw [List.mem_singleton.1 hf']
    exact hsound
  rw [List.flatMap_singleton] at hread
  simp only [Packet.decode, Schema.merge, hread, Option.bind_some, List.foldlM_cons, Schema.mergeField, hslot]
  rfl

/-- A field that no packet has, with as many bytes as a whole message may have. -/
def oversized : Wire.Field where
  number := 15
  payload := .bytes (List.replicate Grpc.maxMessage 0x61)

def Inbound.oversizedCall : Inbound where
  moment := ⟨0, 0⟩
  message := .grpc ⟨Grpc.sendTelemetry, none, oversized.write⟩

/-- A gateway that lets everybody in. -/
def Gateway.unguarded : Gateway Sink where
  limits := .create 0 0
  indices := ⟨"metrics", "logs"⟩
  credentials := none
  limiter := .disabled
  indexer := {}

/-- A call that is too large is stopped before it is counted, even though its message holds a packet. -/
theorem oversizedCall_not_counted :
    (∀ x ∈ [Inbound.oversizedCall], x.Ordinary) ∧
      (Gateway.unguarded.after none [.oversizedCall]).counters.total ≠
        .ofNat ((Gateway.unguarded.transcript none [.oversizedCall]).countP fun e => decide e.1.IsTelemetry) := by
  have htelemetry : Inbound.oversizedCall.IsTelemetry := by decide
  have hcontent : Inbound.oversizedCall.content? = some {} := by
    show Packet.decode oversized.write = some {}
    refine decode_skipped ⟨by decide, ?_⟩ (by decide)
    show (List.replicate Grpc.maxMessage (0x61 : UInt8)).length < 2 ^ 64
    rw [List.length_replicate]
    decide
  have hlarge : Inbound.oversizedCall.TooLarge := by
    show Grpc.maxMessage < (Wire.writeBytes 15 (List.replicate Grpc.maxMessage 0x61)).length
    have hkey := List.length_pos_iff.2 (Wire.Varint.encode_ne_nil (8 * 15 + 2))
    simp only [Wire.writeBytes, Wire.writeKey, List.length_append, List.length_replicate]
    omega
  have hordinary : Inbound.oversizedCall.Ordinary := by
    refine .inl ⟨htelemetry, fun _ => ?_⟩
    rw [hcontent]
    rfl
  obtain ⟨hafter, hcount⟩ := Gateway.after_of_tooLarge (g := Gateway.unguarded) none htelemetry hlarge rfl
  constructor
  · intro x hx
    rw [List.mem_singleton.1 hx]
    exact hordinary
  · rw [hafter, hcount]
    decide

end TelemetryGateway
