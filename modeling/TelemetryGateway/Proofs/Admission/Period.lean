import Mathlib
import TelemetryGateway.Proofs.Admission.Bounds

/-!
# The period of a rate

With exact numbers, the period of a rate is the time in which a token comes back, rounded up to whole nanoseconds, but
it never goes beyond `2 ^ 64`. So a bucket has a token again one period after its last refill, except where the rate
is so low that a token takes longer than `2 ^ 64` nanoseconds, somewhat more than 584 years: there a bucket that was
emptied has none.

## Main definitions

- `Rate.interval`: the time in which a token comes back
- `Rate.Refills`: one period after its last refill a bucket has a token, in every state that it can come to

## Main statements

- `Rate.period_eq`: the period by the interval
- `Bucket.Sound.acquire_of_interval_le`: a token is back
- `Bucket.acquire_emptied`: or it is not
- `Rate.refills_iff`: the rates whose period keeps what it promises
-/

namespace TelemetryGateway.Admission

open Number (Quantity)
open Rounds (quantity)

namespace Rate

theorem lt_of_pos {q : ℚ} (h : 0 < q) : Arithmetic.lt (Arithmetic.ofNat 0) q = true := by
  simpa using h

/-- The rate of a positive number. -/
def ofPos (q : ℚ) (h : 0 < q) : Rate ℚ := ⟨q, finite_eq q, lt_of_pos h⟩

variable (r : Rate ℚ)

/-- The nanoseconds in which a token comes back. -/
def interval : ℚ := nanosPerSecond / r.perSecond

theorem interval_pos : 0 < r.interval :=
  div_pos (by norm_num [nanosPerSecond]) r.perSecond_pos

theorem accrued_eq_div (nanos : Nat) : r.accrued nanos = nanos / r.interval := by
  rw [accrued_eq, interval, div_div_eq_mul_div, mul_comm]

theorem one_le_accrued_iff (nanos : Nat) : 1 ≤ r.accrued nanos ↔ r.interval ≤ nanos := by
  rw [accrued_eq_div, one_le_div r.interval_pos]

theorem ceilUpTo_interval :
    Arithmetic.ceilUpTo 0xFFFFFFFFFFFFFFFF (Arithmetic.div (Arithmetic.ofNat nanosPerSecond) r.perSecond) =
      min (2 ^ 64 - 1) ⌈r.interval⌉₊ := rfl

/-- The one nanosecond that is added helps against no rounding here: it is added where the count of nanoseconds was cut
off. -/
theorem period_eq : r.period = min ⌈r.interval⌉₊ (2 ^ 64) := by
  have hshort (n : Nat) : Arithmetic.lt (r.accrued n) (Arithmetic.ofNat 1) = decide (n < r.interval) := by
    simp [← not_le, one_le_accrued_iff]
  simp only [period, ceilUpTo_interval, hshort, decide_eq_true_eq, ← Nat.lt_ceil]
  split <;> omega

/-- The period exceeds the interval by less than a nanosecond. -/
theorem period_lt : (r.period : ℚ) < r.interval + 1 := by
  have hceil := Nat.ceil_lt_add_one r.interval_pos.le
  have hle : r.period ≤ ⌈r.interval⌉₊ := by
    rw [period_eq]
    exact min_le_left _ _
  exact lt_of_le_of_lt (by exact_mod_cast hle) hceil

theorem interval_le_period_iff : r.interval ≤ r.period ↔ r.interval ≤ 2 ^ 64 := by
  rw [period_eq, ← Nat.ceil_le, le_min_iff, and_iff_right le_rfl, Nat.ceil_le]
  norm_num

end Rate

namespace Bucket

variable {b : Bucket ℚ}

/-! ## One period after a refill -/

theorem sound_iff : b.Sound ↔ 0 ≤ b.tokens ∧ b.tokens ≤ b.burst.toNat := by
  constructor
  · rintro ⟨q, hq, hnonneg, hle⟩
    cases hq
    exact ⟨hnonneg, hle⟩
  · rintro ⟨hnonneg, hle⟩
    exact ⟨b.tokens, rfl, hnonneg, hle⟩

theorem acquire_fst (b : Bucket ℚ) (now : Nat) : (b.acquire now).1 = decide (1 ≤ (b.refill now).tokens) := by
  have hwhole := le_one_tokens (b := b.refill now) rfl
  simp only [acquire, hwhole, decide_eq_true_eq]
  split <;> simp [*]

/-- Where the clock moves on, a refill adds what has come back since, up to the capacity. -/
theorem Sound.refill_tokens {now : Nat} (h : b.Sound) (hle : b.lastRefill ≤ now) :
    (b.refill now).tokens = min (b.tokens + b.rate.accrued (now - b.lastRefill)) b.burst.toNat := by
  rw [Bucket.refill_tokens b now (sound_iff.1 h).2, Rate.accrued_eq, max_eq_right hle, Nat.cast_sub hle]

/-- A token that has come back in the meantime is given, whatever the bucket held before. -/
theorem Sound.acquire_of_interval_le {span t : Nat} (h : b.Sound) (hburst : b.burst ≠ 0) (ht : b.lastRefill ≤ t)
    (hspan : b.rate.interval ≤ span) : (b.acquire (t + span)).1 = true := by
  have hroom : (1 : ℚ) ≤ b.burst.toNat := by
    have hpos : 0 < b.burst.toNat := Nat.pos_of_ne_zero fun h0 => hburst (UInt32.toNat_inj.1 h0)
    exact_mod_cast hpos
  have hback : 1 ≤ b.rate.accrued (t + span - b.lastRefill) := by
    have hlonger : (span : ℚ) ≤ (t + span - b.lastRefill : Nat) := by exact_mod_cast (by omega)
    exact (b.rate.one_le_accrued_iff _).2 (hspan.trans hlonger)
  have hnonneg := (sound_iff.1 h).1
  rw [acquire_fst, decide_eq_true_eq, h.refill_tokens (by omega)]
  exact le_min (by linarith) hroom

/-- The bucket that is emptied at an instant, by as many calls as it takes. -/
def emptied (r : Rate ℚ) (burst : UInt32) (t : Nat) : Bucket ℚ :=
  (full r burst t).after (List.replicate burst.toNat (.acquire t))

theorem emptied_past (burst : UInt32) (t : Nat) :
    ∀ c ∈ List.replicate burst.toNat (Call.acquire t), c.now ≤ t := by
  intro c hc
  rw [List.eq_of_mem_replicate hc, Call.now]

theorem emptied_lastRefill (r : Rate ℚ) (burst : UInt32) (t : Nat) : (emptied r burst t).lastRefill = t :=
  after_lastRefill (emptied_past burst t)

theorem emptied_tokens (r : Rate ℚ) (burst : UInt32) (t : Nat) : (emptied r burst t).tokens = 0 := by
  have hwhole := (whole_full r burst t).after (emptied_past burst t)
  have hcount : (List.replicate burst.toNat (Call.acquire t)).countP Call.isAcquire = burst.toNat := by
    simp [List.countP_replicate, Call.isAcquire]
  rw [hcount, Nat.sub_self] at hwhole
  exact (Quantity.number.inj hwhole.tokens).trans Nat.cast_zero

/-- Whoever comes before a token is back is turned away. -/
theorem acquire_emptied (r : Rate ℚ) (burst : UInt32) (t : Nat) {span : Nat} (hspan : (span : ℚ) < r.interval) :
    ((emptied r burst t).acquire (t + span)).1 = false := by
  have hsound : (emptied r burst t).Sound := (sound_full r burst t).after _
  have hclock := emptied_lastRefill r burst t
  have hrate : (emptied r burst t).rate = r := after_rate _ _
  have hshort : r.accrued span < 1 := by
    rw [← not_le, r.one_le_accrued_iff, not_le]
    exact hspan
  rw [acquire_fst, decide_eq_false_iff_not, not_le, hsound.refill_tokens (by omega), hclock, hrate, emptied_tokens,
    zero_add, Nat.add_sub_cancel_left]
  exact min_lt_of_left_lt hshort

end Bucket

/-! ## What a period promises -/

/-- One period after its last refill, or later, a bucket has a token, in every state that it can come to. -/
def Rate.Refills (r : Rate ℚ) : Prop :=
  ∀ (burst : UInt32) (start : Nat) (calls : List Call) (t : Nat), burst ≠ 0 →
    ((Bucket.full r burst start).after calls).lastRefill ≤ t →
      (((Bucket.full r burst start).after calls).acquire (t + r.period)).1 = true

/-- **The period of a rate.** It is less than a nanosecond longer than the time that a token takes. It is long enough,
for the tokens that come back and for the calls to every bucket, exactly if that time is at most `2 ^ 64`
nanoseconds. -/
theorem Rate.refills_iff (r : Rate ℚ) :
    (r.period : ℚ) < r.interval + 1 ∧ (1 ≤ r.accrued r.period ↔ r.interval ≤ 2 ^ 64) ∧
      (r.Refills ↔ r.interval ≤ 2 ^ 64) := by
  have hlong := r.interval_le_period_iff
  refine ⟨r.period_lt, (r.one_le_accrued_iff _).trans hlong, ?_, ?_⟩
  -- A bucket for one token, emptied at the start, tells the periods that are too short
  · intro hrefills
    by_contra hslow
    have hdenied := Bucket.acquire_emptied r 1 0 (not_le.1 (mt hlong.1 hslow))
    have hgiven := hrefills 1 0 _ 0 (by decide) (Bucket.emptied_lastRefill r 1 0).le
    rw [Bucket.emptied] at hdenied
    exact absurd (hgiven.symm.trans hdenied) (by decide)
  · intro hfast burst start calls t hburst ht
    have hsound := (Bucket.sound_full r burst start).after calls
    apply hsound.acquire_of_interval_le _ ht
    · rw [Bucket.after_rate]
      exact hlong.2 hfast
    · rwa [Bucket.after_burst]

/-- A token every third of a second, and one in more than thirty thousand years. -/
theorem refills_iff_slow :
    (Rate.ofPos 3 (by norm_num)).Refills ∧ ¬ (Rate.ofPos (1 / 2 ^ 40) (by norm_num)).Refills := by
  constructor
  · apply ((Rate.refills_iff _).2.2).2
    norm_num [Rate.interval, Rate.ofPos, nanosPerSecond]
  · intro h
    have hslow := ((Rate.refills_iff _).2.2).1 h
    norm_num [Rate.interval, Rate.ofPos, nanosPerSecond] at hslow

-- The gateway counts in doubles. There the bucket of the same slow rate turns a call away one period after it was
-- emptied, and so does one with three tokens in a thousand million seconds, where it is rounding that leaves the
-- period short.

example :
    let r : Rate Float := .ofDouble ⟨0x3D70000000000000⟩ (by decide) (by decide)
    (Bucket.full r 1 0).run [.acquire 0, .acquire r.period] = [.admitted true, .admitted false] := by
  decide +kernel

example :
    let r : Rate Float := .ofDouble ⟨0x3E29C511DC3A41DF⟩ (by decide) (by decide)
    (Bucket.full r 1 0).run [.acquire 0, .acquire r.period] = [.admitted true, .admitted false] := by
  decide +kernel

end TelemetryGateway.Admission
