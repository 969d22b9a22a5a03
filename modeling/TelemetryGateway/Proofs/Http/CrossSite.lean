import Mathlib
import TelemetryGateway.Http.Router
import TelemetryGateway.Proofs.Http.Policy
import TelemetryGateway.Proofs.Text.Octets

/-!
# Policies around the gateway

A policy stands around all routes. It answers the questions that browsers ask beforehand, before anyone looks at paths
or credentials, and adds its own headers to all other answers. No route sends a header by a name that the policy uses,
so the answer of the routes can be told from what was added.

## Main definitions

- `crossSite`: the names of the headers that are meant for browsers on pages of other sites
- `valuesOf`: all values of a header

## Main statements

- `Response.own_serveRoutes`: the headers that routes send
- `Policy.allowOrigin?_eq_some_iff`: the site that is told to be allowed, where sites are listed
- `serve_policy`: what a policy changes in an answer, and what it leaves alone
-/

namespace TelemetryGateway.Http

open TelemetryGateway.Gateway (Moment Refusal)
open TelemetryGateway.Ingest (Indexer Sink)
open TelemetryGateway.Text (lowercase trim utf8 utf8_injective)

/-- The names of the headers that are meant for browsers on pages of other sites. -/
def crossSite (name : String) : Bool :=
  name == "vary" || "access-control-".toList.isPrefixOf name.toList

/-- All values of a header, by its name in small letters. -/
def valuesOf (name : String) (headers : List (String × String)) : List String :=
  (headers.filter fun h => h.1 == name).map (·.2)

theorem valuesOf_append (name : String) (headers headers' : List (String × String)) :
    valuesOf name (headers ++ headers') = valuesOf name headers ++ valuesOf name headers' := by
  rw [valuesOf, List.filter_append, List.map_append]
  rfl

/-! ## The headers of routes -/

/-- The names of the headers that routes send. -/
def routeHeaders : List String := ["content-type", "www-authenticate", "allow", "content-length"]

namespace Response

/-- The answer has no headers but those that routes send. -/
def Own (a : Response) : Prop := ∀ h ∈ a.headers, h.1 ∈ routeHeaders

theorem own_page (status : Nat) (text : String) : (page status text).Own := by
  simp [Own, routeHeaders, page]

theorem own_json (status : Nat) (v : Json.Value) : (json status v).Own := by
  simp [Own, routeHeaders, json]

theorem Own.extend {a : Response} (h : a.Own) {headers : List (String × String)}
    (hheaders : ∀ e ∈ headers, e.1 ∈ routeHeaders) : (a.extend headers).Own := by
  intro e he
  rcases List.mem_append.1 he with hold | hnew
  · exact h e hold
  · exact hheaders e hnew

theorem Own.allow {a : Response} (h : a.Own) (route : Route) : (a.extend [route.allow]).Own :=
  h.extend (by simp [routeHeaders, Route.allow])

theorem own_ofRefusal (r : Refusal) : (ofRefusal r).Own := by
  refine (own_json _ _).extend ?_
  cases r <;> simp [routeHeaders, challenge]

theorem own_wrongMethod (route : Route) : (wrongMethod route).Own := by
  simp [Own, routeHeaders, wrongMethod, Route.allow]

theorem Own.sent {a : Response} (h : a.Own) (r : Request) : (sent r a).Own := by
  have htold : (a.extend [("content-length", toString a.body.utf8ByteSize)]).Own :=
    h.extend (by simp [routeHeaders])
  rw [Http.sent]
  split <;> exact htold

section Routes

variable {ι : Type} [Indexer ι] (g : Gateway ι) (m : Moment) (uptime : String) (r : Request)

theorem own_post : (post g m r).answer.Own := by
  unfold post
  split
  · exact own_page _ _
  · cases decodeBody r with
    | none => exact own_ofRefusal _
    | some p =>
      simp only
      split
      · exact own_json _ _
      · exact own_ofRefusal _

theorem own_telemetry : (telemetry g m r).answer.Own := by
  simp only [telemetry]
  split
  · split
    · exact own_ofRefusal _
    · exact (own_ofRefusal _).allow _
  · split
    · exact own_post _ _ _
    · exact own_wrongMethod _

theorem own_onRoute (route : Route) : (onRoute g m uptime r route).answer.Own := by
  unfold onRoute
  split
  · exact own_telemetry _ _ _
  · split
    · exact own_wrongMethod _
    · split <;> exact own_page _ _

/-- Routes send no headers by other names. -/
theorem own_serveRoutes : (serveRoutes g m uptime r).answer.Own := by
  have hnowhere : nowhere.Own := by simp [Own, nowhere]
  unfold serveRoutes
  split
  · simp only
    split
    · exact hnowhere
    · exact hnowhere.sent r
  · exact (own_onRoute g m uptime r _).sent r

end Routes

/-- No route sends a header that is meant for pages of other sites. -/
theorem Own.not_crossSite {a : Response} (h : a.Own) : ∀ e ∈ a.headers, crossSite e.1 = false := by
  have hnames : ∀ name ∈ routeHeaders, crossSite name = false := by decide
  exact fun e he => hnames e.1 (h e he)

/-- What is added to an answer for pages of other sites can be taken away again. -/
theorem Own.filter_extend {a : Response} (h : a.Own) {headers : List (String × String)}
    (hheaders : ∀ e ∈ headers, crossSite e.1 = true) :
    (a.extend headers).headers.filter (fun e => !crossSite e.1) = a.headers := by
  have hkept : a.headers.filter (fun e => !crossSite e.1) = a.headers :=
    List.filter_eq_self.2 fun e he => by rw [h.not_crossSite e he]; rfl
  have hdropped : headers.filter (fun e => !crossSite e.1) = [] :=
    List.filter_eq_nil_iff.2 fun e he => by simp [hheaders e he]
  rw [Response.extend, List.filter_append, hkept, hdropped, List.append_nil]

theorem Own.valuesOf_eq_nil {a : Response} (h : a.Own) {name : String} (hname : crossSite name = true) :
    valuesOf name a.headers = [] := by
  rw [valuesOf, List.map_eq_nil_iff, List.filter_eq_nil_iff]
  intro e he hsame
  rw [beq_iff_eq] at hsame
  rw [← hsame, h.not_crossSite e he] at hname
  cases hname

end Response

/-! ## The headers of policies -/

namespace Policy

variable (p : Policy) (r : Request)

theorem crossSite_grants : ∀ e ∈ p.grants r, crossSite e.1 = true := by
  have hnames : crossSite "vary" = true ∧ crossSite "access-control-allow-origin" = true ∧
      crossSite "access-control-allow-private-network" = true := by
    decide
  obtain ⟨hvary, horigin, hprivate⟩ := hnames
  unfold grants
  cases p.allowOrigin? r <;> cases asksPrivateNetwork r <;> simp [hvary, horigin, hprivate]

theorem valuesOf_grants : valuesOf "access-control-allow-origin" (p.grants r) = (p.allowOrigin? r).toList := by
  unfold grants
  cases p.allowOrigin? r <;> cases asksPrivateNetwork r <;> simp [valuesOf]

variable {p r}

/-- Where sites are listed, a site is told to be allowed exactly if it is listed and the request comes from it. -/
theorem allowOrigin?_eq_some_iff {origins : List String} (h : p.origins = .listed origins) {v : String} :
    p.allowOrigin? r = some v ↔ v ∈ origins ∧ r.header? "origin" = some (utf8 v) := by
  simp only [allowOrigin?, h]
  constructor
  · intro hfound
    have horigin := List.find?_some hfound
    exact ⟨List.mem_of_find?_eq_some hfound, by simpa using horigin⟩
  · rintro ⟨hmem, horigin⟩
    cases hfound : origins.find? fun origin => r.header? "origin" == some (utf8 origin) with
    | none => exact absurd horigin (by simpa using List.find?_eq_none.1 hfound v hmem)
    | some w =>
      -- No other site has the same bytes
      have hw := List.find?_some hfound
      rw [horigin] at hw
      rw [utf8_injective (Option.some.inj (beq_iff_eq.1 hw))]

end Policy

/-! ## Serving -/

section Serving

variable {ι : Type} [Indexer ι] (p : Policy) (g : Gateway ι) (m : Moment) (uptime : String) (r : Request)

theorem answerPreflight_status : (answerPreflight p r).status = 200 := by
  unfold answerPreflight
  split
  · simp only
    split <;> rfl
  · rfl

theorem valuesOf_answerPreflight :
    valuesOf "access-control-allow-origin" (answerPreflight p r).headers = (p.allowOrigin? r).toList := by
  have hbase : valuesOf "access-control-allow-origin" (p.preflight r) = (p.allowOrigin? r).toList := by
    rw [Policy.preflight, valuesOf_append, Policy.valuesOf_grants]
    simp [valuesOf]
  -- Nothing that may be added names a site
  unfold answerPreflight
  split
  · simp only
    split
    · exact hbase
    · rw [Response.extend, valuesOf_append, hbase]
      simp [valuesOf]
  · rw [Response.extend, valuesOf_append, hbase]
    simp [valuesOf, Route.allow]

/-- What is said of the site goes with every answer. -/
theorem valuesOf_serve :
    valuesOf "access-control-allow-origin" (serve (some p) g m uptime r).answer.headers =
      (p.allowOrigin? r).toList := by
  have hname : crossSite "access-control-allow-origin" = true := by decide
  unfold serve
  simp only
  split
  · exact valuesOf_answerPreflight p r
  · rw [Response.extend, valuesOf_append, (Response.own_serveRoutes g m uptime r).valuesOf_eq_nil hname,
      List.nil_append, Policy.valuesOf_grants]

end Serving

/-- **What a policy changes.** A request that does not ask beforehand is answered as it is without a policy, by the same
gateway, but for headers that are meant for pages of other sites. One that does is answered without the gateway,
wherever it goes and whatever it presents. Both answers tell that all sites are allowed where the settings say so, and
otherwise name the site that the request comes from if it is one of those in the settings. -/
theorem serve_policy {s : Settings.Cors} {p : Policy} (h : Policy.ofSettings s = .ok (some p)) {ι : Type} [Indexer ι]
    (g : Gateway ι) (m : Moment) (uptime : String) (r : Request) :
    let shared := serve (some p) g m uptime r
    let plain := serve none g m uptime r
    let told := valuesOf "access-control-allow-origin" shared.answer.headers
    (r.method ≠ "OPTIONS" → shared.answer.status = plain.answer.status ∧ shared.answer.body = plain.answer.body ∧
        shared.gateway = plain.gateway ∧ shared.events = plain.events ∧
        shared.answer.headers.filter (fun e => !crossSite e.1) = plain.answer.headers) ∧
      (r.method = "OPTIONS" → shared.answer.status = 200 ∧ shared.gateway = g) ∧
      if s.allowedOrigins = [] ∨ wildcard ∈ s.allowedOrigins then told = [wildcard]
      else told.length ≤ 1 ∧
        ∀ v, v ∈ told ↔ v ∈ s.allowedOrigins.map trim ∧ r.header? "origin" = some (utf8 v) := by
  have henabled : s.enabled = true := by
    by_contra hdisabled
    rw [Policy.ofSettings, if_neg hdisabled] at h
    cases h
  obtain ⟨hallows, -, -⟩ := Policy.create_eq_ok_iff.1 ((Policy.ofSettings_eq_some_iff henabled).1 h)
  refine ⟨fun hmethod => ?_, fun hmethod => ?_, ?_⟩
  · have hserve : serve (some p) g m uptime r =
        { serveRoutes g m uptime r with answer := (serveRoutes g m uptime r).answer.extend (p.grants r) } := by
      simp only [serve, if_neg hmethod]
    have hplain : serve none g m uptime r = serveRoutes g m uptime r := rfl
    have hown := Response.own_serveRoutes g m uptime r
    rw [hserve, hplain]
    -- What the routes do does not matter any more
    generalize serveRoutes g m uptime r = routed at hown ⊢
    exact ⟨rfl, rfl, rfl, rfl, hown.filter_extend (p.crossSite_grants r)⟩
  · simp only [serve, if_pos hmethod]
    exact ⟨answerPreflight_status p r, trivial⟩
  · simp only [valuesOf_serve]
    generalize horigins : p.origins = origins at hallows
    cases hallows with
    | any hall =>
      rw [if_pos hall, Policy.allowOrigin?, horigins]
      rfl
    | listed hsome hbare =>
      rw [if_neg (not_or.2 ⟨hsome, hbare⟩)]
      refine ⟨Option.length_toList_le, fun v => ?_⟩
      rw [Option.mem_toList, Policy.allowOrigin?_eq_some_iff horigins]

/-- A site with a blank in front of it, and no other. -/
def neighbour : Settings.Cors := { enabled := true, allowedOrigins := [" https://a.example"] }

/-- A question beforehand and a packet, both from the listed site and without credentials. -/
theorem serve_policy_neighbour :
    let p : Policy := ⟨.listed ["https://a.example"], defaultMethods, defaultHeaders.map lowercase⟩
    let g : Gateway Sink := ⟨.create 0 0, ⟨"metrics", "logs"⟩, some ⟨"u", "p"⟩, .disabled, {}, {}⟩
    let asks : Request := ⟨"OPTIONS", "/v1/telemetry", [("Origin", utf8 "https://a.example")], []⟩
    let posts : Request := { asks with method := "POST" }
    Policy.ofSettings neighbour = .ok (some p) ∧
      (serve (some p) g ⟨0, 0⟩ "1s" asks).answer.status = 200 ∧ (serve (some p) g ⟨0, 0⟩ "1s" asks).gateway = g ∧
      (serve (some p) g ⟨0, 0⟩ "1s" posts).answer.status = 401 ∧
      "https://a.example" ∈
        valuesOf "access-control-allow-origin" (serve (some p) g ⟨0, 0⟩ "1s" posts).answer.headers := by
  intro p g asks posts
  have hpolicy : Policy.ofSettings neighbour = .ok (some p) := by decide +kernel
  obtain ⟨-, hasked, -⟩ := serve_policy hpolicy g ⟨0, 0⟩ "1s" asks
  obtain ⟨hposted, -, htold⟩ := serve_policy hpolicy g ⟨0, 0⟩ "1s" posts
  obtain ⟨hstatus, hgateway⟩ := hasked rfl
  rw [if_neg (by decide)] at htold
  have hplain : (serve none g ⟨0, 0⟩ "1s" posts).answer.status = 401 := by decide +kernel
  have hlisted : "https://a.example" ∈ neighbour.allowedOrigins.map trim := by decide +kernel
  have horigin : posts.header? "origin" = some (utf8 "https://a.example") := by decide +kernel
  exact ⟨hpolicy, hstatus, hgateway, (hposted (by decide)).1.trans hplain, (htold.2 _).2 ⟨hlisted, horigin⟩⟩

end TelemetryGateway.Http
