import Mathlib
import TelemetryGateway.Health.Check
import TelemetryGateway.Proofs.Net.Endpoint
import TelemetryGateway.Proofs.Settings.Completion

/-!
# Where a gateway is asked for its health

Without another address, a check asks for the text of the address to listen on, with the port behind it. This is where
the server listens as long as the address is one of IPv4, or all addresses of IPv6 in their shortest text. Any other
IPv6 address stands there without brackets, and what is asked for is no endpoint at all.

## Main statements

- `hostOf_of_ne`: addresses that are asked for as they are written
- `target_spells_endpoint`: what is asked for, and which endpoint it spells
-/

namespace TelemetryGateway.Health

open TelemetryGateway.Net (Address Endpoint Quad)
open TelemetryGateway.Text (trim)

/-- What is asked for where no other address is given, or a blank one. -/
theorem target_of_blank (s : Settings.Server) {other : Option String} (h : ∀ url ∈ other, trim url = "") :
    target s other = "http://" ++ (hostOf s.bindAddress ++ ":" ++ toString s.httpPort.toNat) ++ "/healthz" := by
  have hnone : other.filter (fun url => trim url ≠ "") = none := by
    cases other with
    | none => rfl
    | some url => simp [Option.filter, h url rfl]
  simp only [target, hnone, Http.Route.path, String.append_assoc]

section Host

variable {s : String} {a : Address}

/-- The texts that are replaced: two that spell no address, and one of each family. -/
theorem read?_replaced :
    Address.read? "" = none ∧ Address.read? "[::]" = none ∧
      Address.read? "0.0.0.0" = some (.v4 ⟨0, 0, 0, 0⟩) ∧ Address.read? "::" = some (.v6 (.replicate 8 0)) := by
  refine ⟨?_, ?_, ?_, ?_⟩ <;> decide

theorem hostOf_replaced : hostOf "0.0.0.0" = "127.0.0.1" ∧ hostOf "::" = "[::1]" := by
  constructor <;> decide +kernel

/-- An address is asked for as it is written, but for two that stand for all addresses. -/
theorem hostOf_of_ne (h : Address.read? s = some a) (hv4 : s ≠ "0.0.0.0") (hv6 : s ≠ "::") : hostOf s = s := by
  have hempty : s ≠ "" := by
    rintro rfl
    rw [read?_replaced.1] at h
    cases h
  have hbracket : s ≠ "[::]" := by
    rintro rfl
    rw [read?_replaced.2.1] at h
    cases h
  simp [hostOf, Address.trim_of_read? h, hempty, hbracket, hv4, hv6]

/-- Only one text spells the IPv4 address that stands for all addresses. -/
theorem eq_of_read?_unspecified {q : Quad} (h : Address.read? s = some (.v4 q))
    (hall : (Address.v4 q).isUnspecified = true) : s = "0.0.0.0" := by
  have hzero : q = ⟨0, 0, 0, 0⟩ := by simpa [Address.isUnspecified] using hall
  rw [hzero] at h
  exact String.toList_injective (Quad.eq_of_readFront?_zero (Address.read?_eq_v4_iff.1 h))

end Host

section Endpoint

variable {s : String} (port : UInt16)

/-- An IPv4 address is asked for where the server listens. -/
theorem read?_hostOf_v4 {q : Quad} (h : Address.read? s = some (.v4 q)) :
    Endpoint.read? (hostOf s ++ ":" ++ toString port.toNat) = some (Endpoint.probe ⟨.v4 q, port⟩) := by
  by_cases hall : s = "0.0.0.0"
  · subst hall
    rw [read?_replaced.2.2.1] at h
    cases h
    have hloopback : Address.read? "127.0.0.1" = some (.v4 ⟨127, 0, 0, 1⟩) := by decide
    rw [hostOf_replaced.1, Endpoint.read?_v4 port hloopback]
    rfl
  · have hcolons : s ≠ "::" := by
      rintro rfl
      rw [read?_replaced.2.2.2] at h
      cases h
    have hspecified : (Address.v4 q).isUnspecified = false :=
      Bool.eq_false_iff.2 fun hunspecified => hall (eq_of_read?_unspecified h hunspecified)
    rw [hostOf_of_ne h hall hcolons, Endpoint.read?_v4 port h]
    simp [Endpoint.probe, hspecified]

/-- All addresses of IPv6, in their shortest text, are asked for at the loopback address. -/
theorem read?_hostOf_colons :
    Endpoint.read? (hostOf "::" ++ ":" ++ toString port.toNat) =
      some (Endpoint.probe ⟨.v6 (.replicate 8 0), port⟩) := by
  have hloopback : Address.read? "::1" = some (.v6 #v[0, 0, 0, 0, 0, 0, 0, 1]) := by decide
  have hbrackets : hostOf "::" = "[" ++ "::1" ++ "]" := hostOf_replaced.2
  rw [hbrackets, Endpoint.read?_bracketed port hloopback]
  simp [Endpoint.probe, Address.isUnspecified, Address.loopback]

/-- Any other text of an IPv6 address makes no endpoint. -/
theorem read?_hostOf_v6 {g : Vector UInt16 8} (h : Address.read? s = some (.v6 g)) (hcolons : s ≠ "::") :
    Endpoint.read? (hostOf s ++ ":" ++ toString port.toNat) = none := by
  have hquad : s ≠ "0.0.0.0" := by
    rintro rfl
    rw [read?_replaced.2.2.1] at h
    cases h
  rw [hostOf_of_ne h hquad hcolons, Endpoint.read?_unbracketed port h]

end Endpoint

/-- What is asked for where settings can be used and no other address is given. With an IPv4 address it is the endpoint
of the server, or the loopback one where the server listens at all addresses; with an IPv6 address it is so for one
text alone, and no endpoint for all others, although brackets would make it one. -/
theorem target_spells_endpoint {s s' : Settings} (hcomplete : s.complete = .ok s') {other : Option String}
    (hother : ∀ url ∈ other, trim url = "") :
    ∃ (e : Endpoint) (asked : String), s'.server.httpEndpoint = .ok e ∧
      Address.read? s'.server.bindAddress = some e.address ∧ e.port = s'.server.httpPort ∧
      target s'.server other = "http://" ++ asked ++ "/healthz" ∧
      match e.address with
      | .v4 _ => Endpoint.read? asked = some e.probe
      | .v6 _ =>
        if s'.server.bindAddress = "::" then Endpoint.read? asked = some e.probe
        else Endpoint.read? asked = none ∧
          Endpoint.read? ("[" ++ s'.server.bindAddress ++ "]" ++ ":" ++ toString s'.server.httpPort.toNat) = some e := by
  obtain ⟨rateLimit, -, -, -, -, ⟨e, hendpoint⟩, rfl⟩ := Settings.complete_eq_ok_iff.1 hcomplete
  obtain ⟨haddress, hport⟩ := Settings.Server.endpoint_eq_ok_iff.1 hendpoint
  obtain ⟨address, port⟩ := e
  simp only at haddress hport
  subst hport
  refine ⟨_, _, hendpoint, haddress, rfl, target_of_blank _ hother, ?_⟩
  cases address with
  | v4 q => exact read?_hostOf_v4 _ haddress
  | v6 g =>
    simp only
    split
    · rename_i hcolons
      rw [hcolons, read?_replaced.2.2.2] at haddress
      cases haddress
      rw [hcolons, read?_hostOf_colons]
    · rename_i hcolons
      exact ⟨read?_hostOf_v6 _ haddress hcolons, Endpoint.read?_bracketed _ haddress⟩

/-- A server that listens at the IPv6 loopback address is asked for at a text that spells no endpoint. -/
theorem target_spells_endpoint_loopback :
    let s : Settings := { server := { bindAddress := "::1" } }
    s.complete = .ok s ∧ (∀ url ∈ some " ", trim url = "") ∧ target s.server (some " ") = "http://::1:8080/healthz" ∧
      ∃ asked, target s.server (some " ") = "http://" ++ asked ++ "/healthz" ∧ Endpoint.read? asked = none ∧
        Endpoint.read? "[::1]:8080" = some ⟨.v6 #v[0, 0, 0, 0, 0, 0, 0, 1], 8080⟩ := by
  intro s
  have haddress : Address.read? s.server.bindAddress = some (.v6 #v[0, 0, 0, 0, 0, 0, 0, 1]) := by decide
  have hcomplete : s.complete = .ok s :=
    Settings.complete_eq_ok_iff.2 ⟨s.server.rateLimit, rfl, rfl, rfl, rfl,
      ⟨⟨_, _⟩, Settings.Server.endpoint_eq_ok_iff.2 ⟨haddress, rfl⟩⟩, rfl⟩
  have hblank : ∀ url ∈ some " ", trim url = "" := by simpa using (by decide +kernel : trim " " = "")
  obtain ⟨⟨address, port⟩, asked, -, hread, rfl, htarget, hasked⟩ := target_spells_endpoint hcomplete hblank
  rw [haddress] at hread
  cases hread
  have hother : s.server.bindAddress ≠ "::" := by decide
  have htext : "[" ++ s.server.bindAddress ++ "]" ++ ":" ++ toString s.server.httpPort.toNat = "[::1]:8080" := by
    decide +kernel
  simp only [if_neg hother, htext] at hasked
  exact ⟨hcomplete, hblank, by decide +kernel, asked, htarget, hasked⟩

end TelemetryGateway.Health
