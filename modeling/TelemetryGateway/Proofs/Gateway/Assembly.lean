import Mathlib
import TelemetryGateway.Gateway.Assembly
import TelemetryGateway.Proofs.Gateway.Traffic
import TelemetryGateway.Proofs.Settings.Completion

/-!
# Gateways of settings

The defaults for what settings leave open are filled in twice: by completion, and by the parts of the gateway that
settings describe. The rules are the same, so it makes no difference to a gateway whether its settings were completed.

## Main statements

- `Rate.exists_of_double`: a double is a rate to the limiter where it is one to completion
- `KeyedLimiter.effectiveBurst_toFloat`: a burst of zero stands for the same number to both
- `Gateway.defaults_agree`: the gateways of settings before and after completion are the same
-/

namespace TelemetryGateway

open TelemetryGateway.Admission (KeyedLimiter Limiter Rate)
open TelemetryGateway.Ingest (Indexer Limits Sink)
open TelemetryGateway.Number (Double)

/-! ## The limiter -/

/-- A double that stands for a number greater than zero is finite, and a rate. -/
theorem Admission.Rate.exists_of_double {x : Double} (h : ∃ v, x.value? = some v ∧ 0 < v) :
    x.finite = true ∧ ∃ rate : Rate Float, Rate.ofPerSecond? x.toFloat = some rate ∧ rate.perSecond = x.toFloat := by
  obtain ⟨hpositive, hfinite⟩ := Bool.and_eq_true_iff.1 ((Double.positive_finite_iff x).2 h)
  have hrate := And.intro ((Double.finite_toFloat x).trans hfinite) ((Double.lt_toFloat x).trans hpositive)
  exact ⟨hfinite, ⟨x.toFloat, hrate.1, hrate.2⟩, dif_pos hrate, rfl⟩

/-- The limiter makes the same burst of a finite number as completion. -/
theorem Admission.KeyedLimiter.effectiveBurst_toFloat {x : Double} (hfinite : x.finite = true) (burst : UInt32) :
    KeyedLimiter.effectiveBurst x.toFloat burst = if burst = 0 then Settings.burstOf x else burst := by
  -- Both round the same pattern up, since a finite float gives back the pattern that it was made from
  show (if burst = 0 then UInt32.ofNat (max (Number.Real.ceilUpTo 0xFFFFFFFF x.toFloat.toBits) 1) else burst) = _
  rw [Double.toBits_toFloat hfinite]
  rfl

namespace Settings

/-- Where packets are limited, the limiter has the burst of the completed limit. -/
theorem RateLimit.limiter_of_rate {l : RateLimit} {rate : Rate Float} (henabled : l.enabled = true)
    (hfinite : l.requestsPerSecond.finite = true) (hrate : Rate.ofPerSecond? l.requestsPerSecond.toFloat = some rate)
    (hsame : rate.perSecond = l.requestsPerSecond.toFloat) :
    l.limiter = .keyed ⟨rate, l.filled.burst, []⟩ := by
  simp only [RateLimit.limiter, Limiter.create, henabled, if_true, hrate, KeyedLimiter.create, hsame,
    KeyedLimiter.effectiveBurst_toFloat hfinite, RateLimit.filled, true_and]

/-- Completion does not change the limiter. -/
theorem RateLimit.limiter_filled {l : RateLimit} (husable : l.Usable) : l.filled.limiter = l.limiter := by
  cases henabled : l.enabled with
  | false =>
    have hfilled : l.filled.enabled = false := henabled
    simp only [RateLimit.limiter, Limiter.create, henabled, hfilled, Bool.false_eq_true, if_false]
  | true =>
    obtain ⟨hfinite, rate, hrate, hsame⟩ := Admission.Rate.exists_of_double (husable henabled)
    -- A completed limit is completed to itself, so its burst is kept
    rw [RateLimit.limiter_of_rate henabled hfinite hrate hsame,
      RateLimit.limiter_of_rate (l := l.filled) henabled hfinite hrate hsame, RateLimit.filled_filled]

/-! ## The bounds on packets -/

/-- The bounds on packets are those of the completed settings. -/
theorem Server.limits_eq (s : Settings) :
    s.server.limits = ⟨s.filled.server.maxPacketBytes.toNat, s.filled.server.maxContextAttributes.toNat⟩ := by
  simp only [filled, toNat_orDefault _ (by decide : Ingest.defaultMaxPacketBytes < 2 ^ 64),
    toNat_orDefault _ (by decide : Ingest.defaultMaxContextAttributes < 2 ^ 64)]
  rfl

end Settings

/-! ## The gateway -/

/-- Completion does not change the gateway. -/
theorem Gateway.ofSettings_filled {ι : Type} {s : Settings} (h : s.Usable) (indexer : ι) :
    Gateway.ofSettings s.filled indexer = Gateway.ofSettings s indexer := by
  have hlimiter : s.filled.server.rateLimit.limiter = s.server.rateLimit.limiter :=
    Settings.RateLimit.limiter_filled h.rate
  simp only [Gateway.ofSettings, Settings.Server.limits_eq, Settings.filled_filled, hlimiter]
  rfl

/-- It makes no difference to a gateway, and to what becomes of any sequence of requests, whether its settings were
completed. Its bounds on packets are the completed ones, and where packets are limited it has a limiter with the rate
and the burst of the completed settings. -/
theorem Gateway.defaults_agree {s s' : Settings} (h : s.complete = .ok s') {ι : Type} [Indexer ι] (indexer : ι) :
    let g := Gateway.ofSettings s indexer
    let g' := Gateway.ofSettings s' indexer
    g = g' ∧
      (∀ policy xs, g.transcript policy xs = g'.transcript policy xs ∧ g.after policy xs = g'.after policy xs) ∧
      g'.limits = ⟨s'.server.maxPacketBytes.toNat, s'.server.maxContextAttributes.toNat⟩ ∧
      (s'.server.rateLimit.enabled = true → ∃ k, g'.limiter = .keyed k ∧
        k.rate.perSecond = s'.server.rateLimit.requestsPerSecond.toFloat ∧ k.burst = s'.server.rateLimit.burst ∧
        1 ≤ k.burst) := by
  obtain ⟨husable, rfl⟩ := Settings.complete_iff_usable.1 h
  have hsame := Gateway.ofSettings_filled husable indexer
  refine ⟨hsame.symm, fun policy xs => ?_, ?_, fun henabled => ?_⟩
  · rw [hsame]
    exact ⟨rfl, rfl⟩
  · rw [hsame]
    exact Settings.Server.limits_eq s
  · obtain ⟨hfinite, rate, hrate, hperSecond⟩ := Admission.Rate.exists_of_double (husable.rate henabled)
    have hpos := Settings.RateLimit.burst_filled_pos (l := s.server.rateLimit) henabled
    rw [hsame]
    exact ⟨_, Settings.RateLimit.limiter_of_rate henabled hfinite hrate hperSecond, hperSecond, rfl, hpos⟩

/-- A gateway whose settings leave the burst open has the burst that completion gives, and the bounds. -/
theorem Gateway.defaults_agree_unsettled :
    Settings.unsettled.complete = .ok Settings.unsettled.filled ∧
      (Gateway.ofSettings Settings.unsettled ({} : Sink)).limits = ⟨1500, 6⟩ ∧
      ∃ k, (Gateway.ofSettings Settings.unsettled ({} : Sink)).limiter = .keyed k ∧ k.burst = 3 := by
  have hcomplete : Settings.unsettled.complete = .ok Settings.unsettled.filled :=
    Settings.complete_iff_usable.2 ⟨Settings.usable_unsettled, rfl⟩
  obtain ⟨hsame, -, hlimits, hlimiter⟩ := Gateway.defaults_agree hcomplete ({} : Sink)
  obtain ⟨k, hkeyed, -, hburst, -⟩ := hlimiter rfl
  rw [hsame]
  exact ⟨hcomplete, hlimits, k, hkeyed, hburst.trans (by decide +kernel)⟩

end TelemetryGateway
