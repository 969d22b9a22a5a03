import Mathlib
import TelemetryGateway.Gateway.State
import TelemetryGateway.Proofs.Admission.Floats
import TelemetryGateway.Proofs.Admission.Visits
import TelemetryGateway.Proofs.Text.Hex

/-!
# Installations do not disturb each other

An installation is let through as if it were alone: its answers are those of one bucket that nobody else
takes from. The bucket is found by the text of its identifier, and no identifier has the text that stands
for senders without one.

## Main definitions

- `Packet.installation`: the identifier that a packet is counted under

## Main statements

- `KeyedLimiter.toNat_effectiveBurst`: the burst as a number
- `Limiter.first_admitted`: no key is turned away on its first visit
- `normalizeKey_clientKey_inj`, `normalizeKey_clientKey_eq_unknownKey`: buckets and installations
- `installations_isolated`: isolation, from the limiter up to the gateway
-/

namespace TelemetryGateway

open TelemetryGateway.Admission
open TelemetryGateway.Ingest (Indexer)
open TelemetryGateway.Metrics (Transport)
open TelemetryGateway.Number (Double)
open TelemetryGateway.Telemetry (Packet)

namespace Admission

/-! ## The burst -/

/-- A rate stands for a number greater than zero. -/
theorem Rate.exists_value (rate : Rate Float) :
    ∃ v : ℚ, (⟨rate.perSecond.toBits⟩ : Double).value? = some v ∧ 0 < v := by
  have hfloat : (⟨rate.perSecond.toBits⟩ : Double).toFloat = rate.perSecond := Float.ofBits_toBits _
  apply (Double.positive_finite_iff _).1
  rw [← Double.lt_toFloat, ← Double.finite_toFloat, hfloat, rate.isPositive, Bool.true_and]
  exact rate.isFinite

/-- Where no burst is set, it is the number of the rate rounded up, at least one and at most what a burst can be. -/
theorem KeyedLimiter.toNat_effectiveBurst {perSecond : Float} {v : ℚ}
    (h : (⟨perSecond.toBits⟩ : Double).value? = some v) (burst : UInt32) :
    (effectiveBurst perSecond burst).toNat =
      if burst = 0 then max (min (2 ^ 32 - 1) ⌈v⌉₊) 1 else burst.toNat := by
  have hceil : Arithmetic.ceilUpTo 0xFFFFFFFF perSecond = min (2 ^ 32 - 1) ⌈v⌉₊ := Double.ceilUpTo_eq _ h
  rw [effectiveBurst, hceil]
  split
  -- The number rounded up does not overflow
  · rw [UInt32.toNat_ofNat', Nat.mod_eq_of_lt (by omega)]
  · rfl

theorem KeyedLimiter.one_le_effectiveBurst (rate : Rate Float) (burst : UInt32) :
    1 ≤ (effectiveBurst rate.perSecond burst).toNat := by
  obtain ⟨v, hvalue, -⟩ := rate.exists_value
  rw [toNat_effectiveBurst hvalue]
  split
  · exact Nat.le_max_right ..
  · next hburst => exact Nat.one_le_iff_ne_zero.2 fun h => hburst (UInt32.toNat_inj.1 h)

/-! ## First visits -/

/-- A full bucket with room for a token lets the first request through. -/
theorem Bucket.acquire_full_fst (rate : Rate Float) {burst : UInt32} (h : 1 ≤ burst.toNat) (t : Nat) :
    ((Bucket.full rate burst t).acquire t).1 = true := by
  have hrefill : (Bucket.full rate burst t).refill t = Bucket.full rate burst t := by
    simp only [Bucket.refill, Bucket.full, Nat.sub_self, if_true]
  have hle : Arithmetic.le (Arithmetic.ofNat 1) (Bucket.full rate burst t).tokens = true :=
    le_ofNat h
  simp only [Bucket.acquire, hrefill, hle, if_true]

/-- No key is turned away on its first visit. -/
theorem Limiter.first_admitted (rate : Rate Float) (burst : UInt32) (key : String) (vs : List Visit) :
    ∀ yes ∈ ((Limiter.keyed (.create rate burst)).answersTo key vs).head?, yes = true := by
  intro yes hyes
  have hanswers := KeyedLimiter.answersTo_eq (.create rate burst) key vs
  cases hts : instantsOf key vs with
  -- The key was not seen, so there is no first answer
  | nil =>
    rw [hts, KeyedLimiter.ownReplies, List.map_eq_nil_iff] at hanswers
    rw [hanswers] at hyes
    cases hyes
  | cons t ts =>
    have hfirst := Bucket.acquire_full_fst rate (KeyedLimiter.one_le_effectiveBurst rate burst) t
    have hhead : (((Limiter.keyed (.create rate burst)).answersTo key vs).head?).map Reply.admitted =
        some (Reply.admitted ((Bucket.full rate (KeyedLimiter.effectiveBurst rate.perSecond burst) t).acquire
          t).1 : Reply Float) := by
      rw [← List.head?_map, hanswers, hts]
      rfl
    rw [hyes, hfirst] at hhead
    simpa using hhead

end Admission

/-! ## Keys of packets -/

/-- The identifier of the installation that a packet comes from; it is empty where the packet does not
say. -/
def Telemetry.Packet.installation (p : Packet) : List UInt8 :=
  match p.metadata with
  | some client => client.installationId
  | none => []

theorem clientKey_eq (p : Packet) : p.clientKey = Text.Hex.encode p.installation := by
  unfold Packet.clientKey Packet.installation
  cases p.metadata <;> rfl

/-- No identifier reads like the key of senders without one, whose first letter is no digit. -/
theorem encode_ne_unknownKey (bs : List UInt8) : Text.Hex.encode bs ≠ unknownKey := by
  intro h
  have hmem : 'u' ∈ (Text.Hex.encode bs).toList := by
    rw [h]
    decide
  exact absurd (Text.Hex.mem_encode hmem) (by decide)

theorem normalizeKey_clientKey (p : Packet) :
    normalizeKey p.clientKey =
      if p.installation = [] then unknownKey else Text.Hex.encode p.installation := by
  rw [clientKey_eq, normalizeKey]
  simp only [String.isEmpty_iff, Text.Hex.encode_eq_empty_iff]

theorem normalizeKey_clientKey_eq_unknownKey (p : Packet) :
    normalizeKey p.clientKey = unknownKey ↔ p.installation = [] := by
  rw [normalizeKey_clientKey]
  constructor
  · intro h
    by_contra hne
    rw [if_neg hne] at h
    exact encode_ne_unknownKey _ h
  · intro h
    rw [if_pos h]

/-- Two packets share a bucket only if they come from one installation. -/
theorem normalizeKey_clientKey_inj (p q : Packet) :
    normalizeKey p.clientKey = normalizeKey q.clientKey ↔ p.installation = q.installation := by
  constructor
  · intro h
    -- Either both packets name no installation, or both texts are those of their identifiers
    by_cases hp : p.installation = []
    · rw [(normalizeKey_clientKey_eq_unknownKey p).2 hp] at h
      rw [hp, (normalizeKey_clientKey_eq_unknownKey q).1 h.symm]
    · have hq : q.installation ≠ [] := by
        intro hq
        rw [(normalizeKey_clientKey_eq_unknownKey q).2 hq] at h
        exact hp ((normalizeKey_clientKey_eq_unknownKey p).1 h)
      rw [normalizeKey_clientKey, normalizeKey_clientKey, if_neg hp, if_neg hq] at h
      exact Text.Hex.encode_injective h
  · intro h
    rw [normalizeKey_clientKey, normalizeKey_clientKey, h]

/-! ## Packets that reach the gateway -/

/-- A packet that reaches the gateway. -/
structure Arrival where
  transport : Transport
  moment : Gateway.Moment
  packet : Packet

/-- An arrival as the limiter sees it. -/
def Arrival.visit (a : Arrival) : Visit := ⟨a.packet.clientKey, a.moment.now⟩

namespace Gateway

variable {ι : Type} [Indexer ι]

/-- What each packet of a sequence is told. -/
def answers (g : Gateway ι) : List Arrival → List (Except Refusal Ingest.Acknowledgment)
  | [] => []
  | a :: as =>
    let s := g.ingest a.transport a.moment a.packet
    s.answer :: s.gateway.answers as

/-- The limiter has let a packet through, whatever came of it afterwards. -/
def passes : Except Refusal Ingest.Acknowledgment → Bool
  | .error .rateLimited => false
  | _ => true

theorem passes_dispatch (g : Gateway ι) (p : Packet) : passes (g.dispatch p).answer = true := by
  rcases hsent : Ingest.Desk.send ⟨g.indexer, g.counters, []⟩ g.limits g.indices p with ⟨result, desk⟩
  simp only [dispatch, hsent]
  cases result <;> rfl

/-- Handling a packet is one visit to the limiter, under the key of the packet. -/
theorem handle_limiter (g : Gateway ι) (transport : Transport) (now : Nat) (p : Packet) :
    (g.handle transport now p).gateway.limiter = (g.limiter.allow p.clientKey now).2 := by
  simp only [handle]
  -- Let through or not, nothing after the visit touches the limiter
  split
  · rfl
  · rfl

theorem passes_handle (g : Gateway ι) (transport : Transport) (now : Nat) (p : Packet) :
    passes (g.handle transport now p).answer = (g.limiter.allow p.clientKey now).1 := by
  simp only [handle]
  split
  -- Let through: dispatching never answers that the rate is exceeded
  · next h => rw [passes_dispatch, h]
  · next h => simpa [passes] using h

/-- The counting of what came of a packet does not touch the limiter or the answer. -/
theorem ingest_eq_handle (g : Gateway ι) (transport : Transport) (m : Moment) (p : Packet) :
    (g.ingest transport m p).answer = (g.handle transport m.now p).answer ∧
      (g.ingest transport m p).gateway.limiter = (g.handle transport m.now p).gateway.limiter := by
  simp only [ingest]
  split
  · exact ⟨rfl, rfl⟩
  · exact ⟨rfl, rfl⟩

/-- **A gateway lets through what its limiter does.** The limiter sees one visit for each packet, under
the key of the packet. -/
theorem map_passes_answers (g : Gateway ι) (as : List Arrival) :
    (g.answers as).map passes = g.limiter.run (as.map (·.visit)) := by
  induction as generalizing g with
  | nil => rfl
  | cons a as ih =>
    obtain ⟨hanswer, hlimiter⟩ := g.ingest_eq_handle a.transport a.moment a.packet
    simp only [answers, List.map_cons, Limiter.run, ih, hanswer, hlimiter, passes_handle, handle_limiter]
    rfl

end Gateway

/-! ## Isolation -/

theorem Admission.Limiter.create_of_enabled {enabled : Bool} {perSecond : Float} {burst : UInt32}
    (h : (Limiter.create enabled perSecond burst).enabled = true) :
    ∃ rate : Rate Float, rate.perSecond = perSecond ∧
      Limiter.create enabled perSecond burst = .keyed (.create rate burst) := by
  cases enabled with
  | false => cases h
  | true =>
    simp only [create, if_true] at h ⊢
    cases hrate : Rate.ofPerSecond? perSecond with
    | none =>
      rw [hrate] at h
      cases h
    | some rate =>
      refine ⟨rate, ?_, rfl⟩
      simp only [Rate.ofPerSecond?] at hrate
      split at hrate
      · rw [← Option.some.inj hrate]
      · cases hrate

/-- **Installations do not disturb each other.** The visits of a key are told what a full bucket of their
own, made at the first of them, tells them, so visits of other keys make no difference; the first one is let
through, and there is a bucket for each key that was seen and no other. A full bucket holds the burst; where
none is set, it is the rate rounded up, at least one and at most what a burst can be. Packets are counted together
exactly if they are from one installation, and those that name none have a bucket that no installation shares. -/
theorem installations_isolated {enabled : Bool} {perSecond : Float} {burst : UInt32}
    (henabled : (Limiter.create enabled perSecond burst).enabled = true) :
    (∃ (rate : Rate Float) (v : ℚ) (full : UInt32),
      rate.perSecond = perSecond ∧ (⟨perSecond.toBits⟩ : Double).value? = some v ∧
      full.toNat = (if burst = 0 then max (min (2 ^ 32 - 1) ⌈v⌉₊) 1 else burst.toNat) ∧
      ∀ key vs, ((Limiter.create enabled perSecond burst).answersTo key vs).map .admitted =
        match instantsOf key vs with
        | [] => []
        | t :: ts => (Bucket.full rate full t).run ((t :: ts).map .acquire)) ∧
      (∀ key vs vs', instantsOf key vs = instantsOf key vs' →
        (Limiter.create enabled perSecond burst).answersTo key vs =
          (Limiter.create enabled perSecond burst).answersTo key vs') ∧
      (∀ key vs, ∀ yes ∈ ((Limiter.create enabled perSecond burst).answersTo key vs).head?,
        yes = true) ∧
      (∀ vs, ((Limiter.create enabled perSecond burst).after vs).trackedKeys =
        (vs.map (·.bucketKey)).toFinset.card) ∧
      (∀ p q : Packet, normalizeKey p.clientKey = normalizeKey q.clientKey ↔
        p.installation = q.installation) ∧
      (∀ p : Packet, normalizeKey p.clientKey = unknownKey ↔ p.installation = []) ∧
      ∀ (ι : Type) [Indexer ι] (g : Gateway ι) (as : List Arrival),
        (g.answers as).map Gateway.passes = g.limiter.run (as.map (·.visit)) := by
  obtain ⟨rate, hrate, hcreate⟩ := Limiter.create_of_enabled henabled
  obtain ⟨v, hvalue, -⟩ := rate.exists_value
  rw [hrate] at hvalue
  -- A limiter that is just made has no buckets, so each key starts with a full one of its own
  have hanswers : ∀ key vs, ((Limiter.create enabled perSecond burst).answersTo key vs).map .admitted =
      (KeyedLimiter.create rate burst).ownReplies (normalizeKey key) (instantsOf key vs) := by
    intro key vs
    rw [hcreate, KeyedLimiter.answersTo_eq]
  have hfull := KeyedLimiter.toNat_effectiveBurst hvalue burst
  refine ⟨⟨rate, v, _, hrate, hvalue, hfull, fun key vs => ?_⟩, fun key vs vs' h => ?_, fun key vs => ?_,
    fun vs => ?_, normalizeKey_clientKey_inj, normalizeKey_clientKey_eq_unknownKey,
    fun ι _ g as => g.map_passes_answers as⟩
  · rw [hanswers]
    cases instantsOf key vs with
    | nil => rfl
    | cons t ts =>
      rw [KeyedLimiter.ownReplies, ← hrate]
      rfl
  · have hinj : Function.Injective (Reply.admitted : Bool → Reply Float) := by
      intro a b h
      exact Reply.admitted.inj h
    apply List.map_injective_iff.2 hinj
    rw [hanswers, hanswers, h]
  · rw [hcreate]
    exact Limiter.first_admitted rate burst key vs
  · rw [hcreate, KeyedLimiter.trackedKeys_after]

/-- Two tokens a second and a burst of one: after its first visit a key is turned away, with visits of
others in between or without. -/
theorem installations_isolated_two :
    (Limiter.create true (Arithmetic.ofNat 2 : Float) 1).answersTo "a" [⟨"a", 0⟩, ⟨"b", 0⟩, ⟨"a", 0⟩] =
      (Limiter.create true (Arithmetic.ofNat 2 : Float) 1).answersTo "a" [⟨"", 7⟩, ⟨"a", 0⟩, ⟨"a", 0⟩] ∧
    ((Limiter.create true (Arithmetic.ofNat 2 : Float) 1).after
      [⟨"", 7⟩, ⟨"a", 0⟩, ⟨"unknown", 0⟩]).trackedKeys = 2 := by
  have henabled : (Limiter.create true (Arithmetic.ofNat 2 : Float) 1).enabled = true := by
    decide +kernel
  obtain ⟨-, hsame, -, htracked, -⟩ := installations_isolated henabled
  exact ⟨hsame "a" _ _ (by decide), (htracked _).trans (by decide)⟩

end TelemetryGateway
