import Mathlib
import TelemetryGateway.Gateway.Assembly
import TelemetryGateway.Proofs.Access.Credentials
import TelemetryGateway.Proofs.Gateway.Effects
import TelemetryGateway.Proofs.Settings.Completion

/-!
# Whom a configured gateway lets in

A gateway takes its credentials from its settings and keeps them. Clients that present exactly these credentials are
let in on both transports, as long as there is no colon in the user name. A user name with a colon passes the check of
the settings all the same, and then nobody is let in.

## Main definitions

- `Inbound.Presents`: the bytes by which a client proves itself

## Main statements

- `Gateway.serve_unauthorized_iff`: who is told to be unauthorized
- `Settings.complete_basicAuth`: the check of the settings leaves the credentials as they are
- `Gateway.own_credentials_refused_iff`: when clients with the configured credentials are turned away
-/

namespace TelemetryGateway

open TelemetryGateway.Access
open TelemetryGateway.Gateway (codesOf reasonOf)
open TelemetryGateway.Http (Policy)
open TelemetryGateway.Ingest (Indexer Sink)
open TelemetryGateway.Telemetry (Packet)
open TelemetryGateway.Text

/-! ## Settings -/

/-- The check of the settings leaves the credentials as they are. -/
theorem Settings.complete_basicAuth {s s' : Settings} (h : s.complete = .ok s') :
    s'.server.basicAuth = s.server.basicAuth := by
  obtain ⟨rateLimit, -, -, -, -, -, rfl⟩ := complete_eq_ok_iff.1 h
  rfl

/-! ## The bytes of a header value -/

/-- A header value that is made from credentials is presented as it is. -/
theorem Access.presented_header (username password : String) :
    presented (some (utf8 (Credentials.header username password))) =
      some (Credentials.header username password) := by
  have hscheme : ∀ c ∈ scheme, 0x20 ≤ c.toNat ∧ c.toNat < 0x7F := by simp [scheme]
  have hencoded := Base64.forall_mem_encodeChars (P := fun c => 0x20 ≤ c.toNat ∧ c.toNat < 0x7F)
    Base64.digit_visible (by decide) (utf8 (username ++ ":" ++ password))
  have hvisible : (utf8 (Credentials.header username password)).all isHeaderText = true := by
    rw [List.all_eq_true, Credentials.header, utf8_ofList, octets]
    intro b hb
    obtain ⟨c, hc, hb⟩ := List.mem_flatMap.1 hb
    have hrange : 0x20 ≤ c.toNat ∧ c.toNat < 0x7F := (List.mem_append.1 hc).elim (hscheme c) (hencoded c)
    rw [octet_ascii (by omega), List.mem_singleton] at hb
    have hbyte : b.toNat = c.toNat := by rw [hb, UInt8.toNat_ofNat', Nat.mod_eq_of_lt (by omega)]
    simp only [isHeaderText, Bool.or_eq_true, Bool.and_eq_true, decide_eq_true_eq, UInt8.le_iff_toNat_le,
      UInt8.lt_iff_toNat_lt, hbyte]
    exact .inl hrange
  simp only [presented, headerText?, Option.map_some, if_pos hvisible, ofUtf8?_utf8, Option.getD_some]

/-- The bytes by which a client proves itself, on the one or the other transport. -/
def Inbound.Presents (x : Inbound) (value : List UInt8) : Prop :=
  match x.message with
  | .http _ r => r.header? "authorization" = some value
  | .grpc c => c.authorization = some value

instance (x : Inbound) (value : List UInt8) : Decidable (x.Presents value) :=
  match x with
  | ⟨_, .http _ r⟩ => inferInstanceAs (Decidable (r.header? "authorization" = some value))
  | ⟨_, .grpc c⟩ => inferInstanceAs (Decidable (c.authorization = some value))

theorem Inbound.Presents.header {x : Inbound} {value : List UInt8} (h : x.Presents value) :
    x.header = presented (some value) := by
  obtain ⟨m, message⟩ := x
  cases message with
  | http uptime r =>
    show presented (r.header? "authorization") = _
    rw [show r.header? "authorization" = some value from h]
  | grpc c =>
    show presented c.authorization = _
    rw [show c.authorization = some value from h]

namespace Gateway

variable {ι : Type} [Indexer ι] (policy : Option Policy)

/-- Who is told to be unauthorized is so. -/
theorem Settled.not_authorized_of_codes {g left : Gateway ι} {now : Nat} {header : Option String}
    {packet? : Option Packet} {v : Verdict} (hsettled : Settled g now header packet? v left)
    (h : codesOf (reasonOf v) = codesOf (some .unauthorized)) : g.authorize header ≠ .ok () := by
  cases hsettled with
  | unauthorized hauth =>
    rw [hauth]
    intro heq
    cases heq
  | unreadable => cases h
  | rateLimited => cases h
  | invalid => cases h
  | accepted => cases h

/-- Whoever is not authorized is told so, and nobody else is. -/
theorem serve_unauthorized_iff (g : Gateway ι) {x : Inbound} (htelemetry : x.IsTelemetry) :
    (g.serve policy x).answer.hasCode 401 16 = true ↔ g.authorize x.header ≠ .ok () := by
  constructor
  · intro htold
    have hcodes : codesOf (reasonOf (g.settle x.moment.now x.header x.packet?).1) =
        codesOf (some .unauthorized) := g.codes_of_hasCode policy htelemetry htold
    exact (g.settled x.moment.now x.header x.packet?).not_authorized_of_codes hcodes
  · intro hauth
    cases hdenial : g.authorize x.header with
    | ok _ => exact absurd hdenial hauth
    | error d =>
      have htold : (g.serve policy x).answer.Says (.error (.unauthorized d)) := by
        by_cases hread : x.Readable
        · have hserve := (g.serve_readable policy htelemetry hread).2
          simpa only [settle, hdenial] using hserve
        · have hserve := g.serve_unread policy htelemetry hread
          rw [hdenial] at hserve
          exact hserve.2
      exact (htold.hasCode_iff (some .unauthorized)).2 rfl

/-- Credentials are kept. -/
theorem after_authorize (g : Gateway ι) (xs : List Inbound) (header : Option String) :
    (g.after policy xs).authorize header = g.authorize header := by
  induction xs generalizing g with
  | nil => rfl
  | cons x xs ih =>
    rw [after, ih]
    exact g.serve_authorize policy x header

/-- **Clients with the configured credentials are let in unless the user name has a colon.** Whatever has been served
before, over HTTP and over gRPC alike, a telemetry request with the header value that the configured user name and
password make is told to be unauthorized if and only if there is a colon in the user name. In that case nobody is let
in, whatever is presented. -/
theorem own_credentials_refused_iff {s s' : Settings} (hcomplete : s.complete = .ok s')
    (henabled : s.server.basicAuth.enabled = true) (indexer : ι) (before : List Inbound) :
    let g := (ofSettings s' indexer).after policy before
    let username := s.server.basicAuth.username
    let own := Credentials.header username s.server.basicAuth.password
    (∀ x : Inbound, x.IsTelemetry → x.Presents (utf8 own) →
        ((g.serve policy x).answer.hasCode 401 16 = true ↔ ':' ∈ username.toList)) ∧
      (':' ∈ username.toList →
        ∀ x : Inbound, x.IsTelemetry → (g.serve policy x).answer.hasCode 401 16 = true) := by
  intro g username own
  have hcredentials : (ofSettings s' indexer).credentials = some ⟨username, s.server.basicAuth.password⟩ := by
    simp only [ofSettings, Settings.BasicAuth.credentials, Settings.complete_basicAuth hcomplete, henabled, if_true,
      username]
  have hauthorize (header : Option String) :
      g.authorize header = Credentials.check ⟨username, s.server.basicAuth.password⟩ header := by
    simp only [g, after_authorize]
    simp only [authorize, hcredentials]
  constructor
  · intro x htelemetry hpresents
    rw [g.serve_unauthorized_iff policy htelemetry, hauthorize, hpresents.header, presented_header, ne_eq,
      Credentials.check_eq_ok_iff, Credentials.opened_header_iff]
    simp [username]
  · intro hcolon x htelemetry
    rw [g.serve_unauthorized_iff policy htelemetry, hauthorize, ne_eq, Credentials.check_eq_ok_iff]
    exact Credentials.not_opened_of_colon hcolon x.header

/-- Settings with credentials and nothing else. -/
def guardedSettings (username password : String) : Settings where
  server := { basicAuth := { enabled := true, username := username, password := password } }

/-- A call with the header value that a user name and a password make. -/
def provenCall (username password : String) : Inbound where
  moment := ⟨0, 0⟩
  message := .grpc ⟨Grpc.sendTelemetry, some (utf8 (Credentials.header username password)), []⟩

/-- The same over HTTP. -/
def provenPost (username password : String) : Inbound where
  moment := ⟨0, 0⟩
  message := .http "" ⟨"POST", "/v1/telemetry", [("Authorization", utf8 (Credentials.header username password))], []⟩

/-- With `p:q` for a password a client is let in; with `a:b` for a user name no client is. -/
theorem own_credentials_refused_colon :
    let inside := ofSettings (guardedSettings "ab" "p:q") ({} : Sink)
    let outside := ofSettings (guardedSettings "a:b" "p") ({} : Sink)
    (inside.serve none (provenCall "ab" "p:q")).answer.hasCode 401 16 = false ∧
      (inside.serve none (provenPost "ab" "p:q")).answer.hasCode 401 16 = false ∧
      (outside.serve none (provenCall "a:b" "p")).answer.hasCode 401 16 = true ∧
      (outside.serve none (provenPost "a" "b:p")).answer.hasCode 401 16 = true := by
  have hinside : (guardedSettings "ab" "p:q").complete = .ok (guardedSettings "ab" "p:q") := rfl
  have houtside : (guardedSettings "a:b" "p").complete = .ok (guardedSettings "a:b" "p") := rfl
  have hcolon : ':' ∉ "ab".toList := by decide
  obtain ⟨hown, -⟩ := own_credentials_refused_iff none hinside rfl ({} : Sink) []
  obtain ⟨hown', hnobody⟩ := own_credentials_refused_iff none houtside rfl ({} : Sink) []
  intro inside outside
  refine ⟨?_, ?_, ?_, ?_⟩
  · exact Bool.eq_false_iff.2 fun h => hcolon ((hown _ (by decide +kernel) (by decide +kernel)).1 h)
  · exact Bool.eq_false_iff.2 fun h => hcolon ((hown _ (by decide +kernel) (by decide +kernel)).1 h)
  · exact (hown' _ (by decide +kernel) (by decide +kernel)).2 (by decide)
  · exact hnobody (by decide) _ (by decide +kernel)

end Gateway

end TelemetryGateway
