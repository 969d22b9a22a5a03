import Mathlib
import TelemetryGateway.Proofs.Admission.Exact

/-!
# What a bucket holds, from its history

The tokens of a bucket are a lazily refilled, capped count. Here they are given in closed form: the least,
over all stretches of calls that end now, of what a bucket that was full at the start of the stretch would
have left. Every answer of a run follows from it.

## Main definitions

- `History`: a bucket and the calls made to it
- `History.clock`: the latest instant seen up to a call
- `History.taken`: the tokens that a call took, none or one
- `History.level`: the closed form

## Main statements

- `History.Holds.step`: one call keeps count and clock in step with the closed form
- `History.holds`: so does a whole run
- `History.replies_without`: what a call that takes nothing changes
- `History.replies_exact`: what each call of a run is told
-/

namespace TelemetryGateway.Admission

/-! ## Runs, call by call -/

namespace Bucket

variable {α : Type} [Arithmetic α]

theorem after_append (b : Bucket α) (cs ds : List Call) :
    b.after (cs ++ ds) = (b.after cs).after ds := by
  induction cs generalizing b with
  | nil => rfl
  | cons c cs ih => exact ih (b.call c).2

theorem run_append (b : Bucket α) (cs ds : List Call) :
    b.run (cs ++ ds) = b.run cs ++ (b.after cs).run ds := by
  induction cs generalizing b with
  | nil => rfl
  | cons c cs ih =>
    simp only [List.cons_append, run, after]
    rw [ih]

@[simp] theorem length_run (b : Bucket α) (cs : List Call) : (b.run cs).length = cs.length := by
  induction cs generalizing b with
  | nil => rfl
  | cons c cs ih => simp only [run, List.length_cons, ih]

/-- The answer to a call is the one that the bucket after the calls before it gives. -/
theorem run_getElem? (b : Bucket α) (cs : List Call) (j : Nat) :
    (b.run cs)[j]? = cs[j]?.map fun c => ((b.after (cs.take j)).call c).1 := by
  induction cs generalizing b j with
  | nil => rfl
  | cons c cs ih =>
    cases j with
    | zero => rfl
    | succ j => exact ih (b.call c).2 j

end Bucket

/-! ## Histories -/

/-- A bucket that was full when it came into being, and the calls made to it. Calls are numbered from one;
number zero is the creation. -/
structure History where
  rate : Rate ℚ
  burst : UInt32
  /-- The instant of creation. -/
  start : Nat
  calls : List Call

namespace History

variable (h : History)

/-- The bucket behind so many calls. -/
def bucket (j : Nat) : Bucket ℚ :=
  (Bucket.full h.rate h.burst h.start).after (h.calls.take j)

/-- What the calls are told. -/
def replies : List (Reply ℚ) :=
  (Bucket.full h.rate h.burst h.start).run h.calls

/-- The latest instant among the creation and the calls up to number `j`. -/
def clock (j : Nat) : Nat :=
  (h.calls.take j).foldl (fun latest c => max latest c.now) h.start

/-- The tokens that call number `j` took: one if it was let through, otherwise none. -/
def taken : Nat → ℚ
  | 0 => 0
  | j + 1 => (h.replies[j]?.map Reply.cost).getD 0

/-- The tokens that come back while the clock moves on from call `i` to call `j`. -/
def returned (i j : Nat) : ℚ :=
  h.rate.perSecond * (h.clock j - h.clock i) / nanosPerSecond

/-- What is left at call `j` if the bucket was full at call `i`: the burst and what has come back since,
less what the calls from `i` on, `j` not among them, have taken. -/
def allowance (i j : Nat) : ℚ :=
  h.burst.toNat + h.returned i j - ∑ k ∈ Finset.Ico i j, h.taken k

/-- The least allowance of all stretches that end at call `j`. -/
def level (j : Nat) : ℚ :=
  (Finset.range (j + 1)).inf' ⟨0, by simp⟩ fun i => h.allowance i j

/-! ### The closed form, step by step -/

theorem clock_succ {j : Nat} (hj : j < h.calls.length) :
    h.clock (j + 1) = max (h.clock j) h.calls[j].now := by
  simp only [clock, List.take_add_one, List.getElem?_eq_getElem hj, Option.toList_some,
    List.foldl_append, List.foldl_cons, List.foldl_nil]

theorem bucket_succ {j : Nat} (hj : j < h.calls.length) :
    h.bucket (j + 1) = ((h.bucket j).call h.calls[j]).2 := by
  simp only [bucket, List.take_add_one, List.getElem?_eq_getElem hj, Option.toList_some,
    Bucket.after_append]
  rfl

theorem replies_getElem? {j : Nat} (hj : j < h.calls.length) :
    h.replies[j]? = some ((h.bucket j).call h.calls[j]).1 := by
  rw [replies, Bucket.run_getElem?, List.getElem?_eq_getElem hj]
  rfl

theorem taken_nonneg (j : Nat) : 0 ≤ h.taken j := by
  cases j with
  | zero => exact le_rfl
  | succ j =>
    simp only [taken]
    cases h.replies[j]? with
    | none => exact le_rfl
    | some r => exact r.cost_nonneg

/-- A stretch of no calls leaves the whole burst. -/
@[simp] theorem allowance_self (j : Nat) : h.allowance j j = h.burst.toNat := by
  simp [allowance, returned]

/-- One more call takes away what it took and adds what comes back until the next one. -/
theorem allowance_succ {i j : Nat} (hij : i ≤ j) :
    h.allowance i (j + 1) = h.allowance i j + (h.returned j (j + 1) - h.taken j) := by
  simp only [allowance, returned, Finset.sum_Ico_succ_top hij]
  ring

theorem level_le_allowance {i j : Nat} (hij : i ≤ j) : h.level j ≤ h.allowance i j :=
  Finset.inf'_le _ (Finset.mem_range.2 (Nat.lt_succ_of_le hij))

theorem level_le_burst (j : Nat) : h.level j ≤ h.burst.toNat := by
  have hself := h.level_le_allowance (le_refl j)
  rwa [allowance_self] at hself

@[simp] theorem level_zero : h.level 0 = h.burst.toNat := by
  simp [level]

/-- The closed form obeys the rule of a bucket: what was left, and what has come back since, up to the
burst. -/
theorem level_succ (j : Nat) :
    h.level (j + 1) = min (h.level j - h.taken j + h.returned j (j + 1)) h.burst.toNat := by
  have hshift : (Finset.range (j + 1)).inf' ⟨0, by simp⟩ (fun i => h.allowance i (j + 1)) =
      h.level j + (h.returned j (j + 1) - h.taken j) := by
    have hcomp := Finset.apply_inf'_eq_inf'_comp (⟨0, by simp⟩ : (Finset.range (j + 1)).Nonempty)
      (f := fun i => h.allowance i j) (fun x : ℚ => x + (h.returned j (j + 1) - h.taken j))
      (fun x y => (min_add_add_right x y _).symm)
    rw [level, hcomp]
    apply Finset.inf'_congr _ rfl
    intro i hi
    exact h.allowance_succ (Nat.le_of_lt_succ (Finset.mem_range.1 hi))
  -- The stretches that end at the next call are the old ones, drawn out, and the empty one
  have hsplit : h.level (j + 1) =
      min (h.allowance (j + 1) (j + 1))
        ((Finset.range (j + 1)).inf' ⟨0, by simp⟩ fun i => h.allowance i (j + 1)) := by
    simp only [level, Finset.range_add_one (n := j + 1)]
    exact Finset.inf'_insert _ _
  rw [hsplit, hshift, allowance_self, min_comm]
  congr 1
  ring

/-! ### Bucket and closed form together -/

/-- The bucket behind call `j` has the count and the clock that the history says. -/
structure Holds (j : Nat) : Prop where
  rate : (h.bucket j).rate = h.rate
  burst : (h.bucket j).burst = h.burst
  clock : (h.bucket j).lastRefill = h.clock j
  tokens : (h.bucket j).tokens = h.level j - h.taken j
  /-- No call took a token that was not there. -/
  taken_le : h.taken j ≤ h.level j

theorem holds_zero : h.Holds 0 where
  rate := rfl
  burst := rfl
  clock := rfl
  tokens := by
    rw [level_zero]
    exact (sub_zero _).symm
  taken_le := by
    rw [level_zero]
    exact Nat.cast_nonneg _

variable {h}

theorem Holds.tokens_le_burst {j : Nat} (hold : h.Holds j) :
    (h.bucket j).tokens ≤ (h.bucket j).burst.toNat := by
  rw [hold.tokens, hold.burst]
  linarith [h.level_le_burst j, h.taken_nonneg j]

/-- The next call finds the next level, whatever its instant. -/
theorem Holds.refill_tokens {j : Nat} (hj : j < h.calls.length) (hold : h.Holds j) :
    ((h.bucket j).refill h.calls[j].now).tokens = h.level (j + 1) := by
  rw [Bucket.refill_tokens _ _ hold.tokens_le_burst, hold.tokens, hold.rate, hold.burst, hold.clock, level_succ,
    returned, clock_succ h hj]

theorem level_succ_nonneg {j : Nat} (hj : j < h.calls.length) (hold : h.Holds j) :
    0 ≤ h.level (j + 1) := by
  have hforward : (h.clock j : ℚ) ≤ h.clock (j + 1) := by
    rw [clock_succ h hj]
    exact_mod_cast le_max_left _ _
  have hback : 0 ≤ h.returned j (j + 1) :=
    div_nonneg (mul_nonneg h.rate.perSecond_pos.le (sub_nonneg.2 hforward)) (Nat.cast_nonneg _)
  rw [level_succ]
  refine le_min ?_ (Nat.cast_nonneg _)
  -- What was left is not negative by the invariant, and the clock brings nothing negative back
  linarith [hold.taken_le]

/-- **One call.** Its answer is read off the level, and bucket and history stay together. -/
theorem Holds.step {j : Nat} (hj : j < h.calls.length) (hold : h.Holds j) :
    h.replies[j]? = some (h.calls[j].answer (h.level (j + 1))) ∧ h.Holds (j + 1) := by
  have hcall := Bucket.call_eq (h.bucket j) h.calls[j]
  rw [hold.refill_tokens hj] at hcall
  have hreply : h.replies[j]? = some (h.calls[j].answer (h.level (j + 1))) := by
    rw [replies_getElem? h hj, hcall]
  have htaken : h.taken (j + 1) = (h.calls[j].answer (h.level (j + 1))).cost := by
    simp only [taken, hreply, Option.map_some, Option.getD_some]
  -- The next bucket is the refilled one less the cost, so each field of the invariant can be read off
  have hbucket := h.bucket_succ hj
  rw [hcall] at hbucket
  refine ⟨hreply, ?_⟩
  constructor
  case rate =>
    rw [hbucket]
    exact (Bucket.refill_rate _ _).trans hold.rate
  case burst =>
    rw [hbucket]
    exact (Bucket.refill_burst _ _).trans hold.burst
  case clock =>
    rw [hbucket, clock_succ h hj, ← hold.clock]
    exact Bucket.refill_lastRefill _ _
  case tokens => rw [hbucket, htaken]
  case taken_le =>
    rw [htaken]
    exact Call.cost_answer_le (level_succ_nonneg hj hold) _

variable (h)

/-- **A whole run.** Bucket and history never part. -/
theorem holds {j : Nat} (hj : j ≤ h.calls.length) : h.Holds j := by
  induction j with
  | zero => exact h.holds_zero
  | succ j ih => exact ((ih (Nat.le_of_succ_le hj)).step hj).2

/-- What a call is told depends on nothing but the level that it finds. -/
theorem replies_eq_answer {j : Nat} (hj : j < h.calls.length) :
    h.replies[j]? = some (h.calls[j].answer (h.level (j + 1))) :=
  ((h.holds (Nat.le_of_lt hj)).step hj).1

/-- No stretch of calls takes more than the burst and what comes back during it. -/
theorem sum_taken_le {i j : Nat} (hij : i ≤ j) (hj : j ≤ h.calls.length) :
    ∑ k ∈ Finset.Icc i j, h.taken k ≤ h.burst.toNat + h.returned i j := by
  -- The last call took no more than it found, which the allowance of the stretch bounds
  have hfound : h.taken j ≤ h.allowance i j := (h.holds hj).taken_le.trans (h.level_le_allowance hij)
  have hlast : ∑ k ∈ Finset.Icc i j, h.taken k = ∑ k ∈ Finset.Ico i j, h.taken k + h.taken j := by
    rw [← Finset.sum_Ico_succ_top hij]
    rfl
  rw [hlast]
  simp only [allowance] at hfound
  linarith

/-- The level is the allowance of some stretch. -/
theorem exists_level_eq_allowance (j : Nat) : ∃ i ≤ j, h.level j = h.allowance i j := by
  obtain ⟨i, hi, heq⟩ := Finset.exists_mem_eq_inf' (⟨0, by simp⟩ : (Finset.range (j + 1)).Nonempty)
    (fun i => h.allowance i j)
  exact ⟨i, Nat.le_of_lt_succ (Finset.mem_range.1 hi), heq⟩

end History

/-! ## Calls that take nothing -/

/-- Two refills are one, unless the first goes further ahead than the second. -/
theorem Bucket.refill_refill (b : Bucket ℚ) {t u : Nat} (hcap : b.tokens ≤ b.burst.toNat)
    (hahead : t ≤ max b.lastRefill u) : (b.refill t).refill u = b.refill u := by
  have hclock : max (max b.lastRefill t) u = max b.lastRefill u := by omega
  -- The first refill leaves the bucket within its capacity, so the second one is a capped sum as well
  have hcap' : (b.refill t).tokens ≤ (b.refill t).burst.toNat := by
    rw [Bucket.refill_tokens b t hcap, Bucket.refill_burst]
    exact min_le_right _ _
  have htokens : ((b.refill t).refill u).tokens = (b.refill u).tokens := by
    -- A cap in between makes no difference, as what comes later is not negative
    have hforward : (max b.lastRefill t : ℕ) ≤ (max b.lastRefill u : ℕ) := by omega
    have hrate := b.rate.perSecond_pos
    have hlater : 0 ≤ b.rate.perSecond * ((max b.lastRefill u : ℕ) - (max b.lastRefill t : ℕ)) /
        nanosPerSecond :=
      div_nonneg (mul_nonneg hrate.le (sub_nonneg.2 (by exact_mod_cast hforward))) (Nat.cast_nonneg _)
    rw [Bucket.refill_tokens _ u hcap', Bucket.refill_tokens b t hcap, Bucket.refill_tokens b u hcap,
      Bucket.refill_rate, Bucket.refill_burst, Bucket.refill_lastRefill, hclock, ← min_add_add_right,
      min_assoc, min_eq_right (le_add_of_nonneg_right hlater)]
    congr 1
    ring
  calc (b.refill t).refill u
      = ⟨((b.refill t).refill u).rate, ((b.refill t).refill u).burst, ((b.refill t).refill u).tokens,
          ((b.refill t).refill u).lastRefill⟩ := rfl
    _ = ⟨(b.refill u).rate, (b.refill u).burst, (b.refill u).tokens, (b.refill u).lastRefill⟩ := by
        rw [htokens]
        simp only [Bucket.refill_rate, Bucket.refill_burst, Bucket.refill_lastRefill, hclock]

/-- A refill in front of a run makes no difference, unless it goes ahead of the first call. -/
theorem Bucket.run_refill (b : Bucket ℚ) {t : Nat} (hcap : b.tokens ≤ b.burst.toNat) (cs : List Call)
    (hahead : ∀ d ∈ cs.head?, t ≤ max b.lastRefill d.now) : (b.refill t).run cs = b.run cs := by
  cases cs with
  | nil => rfl
  | cons d ds =>
    have hcall : (b.refill t).call d = b.call d := by
      rw [Bucket.call_eq, Bucket.call_eq, Bucket.refill_refill b hcap (hahead d rfl)]
    simp only [Bucket.run, hcall]

namespace History

variable (h : History)

/-- The same bucket, with one call less. -/
def without (j : Nat) : History := { h with calls := h.calls.eraseIdx j }

/-- A call that takes nothing matters to the others through the clock alone: where it is not ahead of the
clock before it and of the next call, all other answers are the same without it. -/
theorem replies_without {j : Nat} (hj : j < h.calls.length) (hfree : h.taken (j + 1) = 0)
    (hahead : ∀ d ∈ h.calls[j + 1]?, h.calls[j].now ≤ max (h.clock j) d.now) :
    (h.without j).replies = h.replies.eraseIdx j := by
  have hold := h.holds (Nat.le_of_lt hj)
  have hcalls : h.calls = h.calls.take j ++ h.calls[j] :: h.calls.drop (j + 1) := by
    rw [List.getElem_cons_drop, List.take_append_drop]
  have hlength : (h.calls.take j).length = j := List.length_take_of_le (Nat.le_of_lt hj)
  -- A call that costs nothing is a mere refill
  have hrefill : ((h.bucket j).call h.calls[j]).2 = (h.bucket j).refill h.calls[j].now := by
    have hcost : (h.calls[j].answer ((h.bucket j).refill h.calls[j].now).tokens).cost = 0 := by
      rw [← hfree, hold.refill_tokens hj]
      simp only [taken, h.replies_eq_answer hj, Option.map_some, Option.getD_some]
    rw [Bucket.call_eq, hcost, sub_zero]
  have hlater : ((h.bucket j).refill h.calls[j].now).run (h.calls.drop (j + 1)) =
      (h.bucket j).run (h.calls.drop (j + 1)) := by
    apply Bucket.run_refill _ hold.tokens_le_burst
    intro d hd
    rw [hold.clock]
    exact hahead d (by rwa [List.head?_drop] at hd)
  -- Both runs are split at the call; the parts in front of it are the same
  have hwith : h.replies = (Bucket.full h.rate h.burst h.start).run (h.calls.take j) ++
      ((h.bucket j).call h.calls[j]).1 :: (h.bucket j).run (h.calls.drop (j + 1)) := by
    conv_lhs => rw [replies, hcalls, Bucket.run_append]
    rw [← hlater, ← hrefill]
    rfl
  have hwithout : (h.without j).replies = (Bucket.full h.rate h.burst h.start).run (h.calls.take j) ++
      (h.bucket j).run (h.calls.drop (j + 1)) := by
    rw [replies, without, List.eraseIdx_eq_take_drop_succ, Bucket.run_append]
    rfl
  rw [hwith, hwithout, List.eraseIdx_append_of_length_le (by simp [hlength])]
  simp [hlength]

/-- **The limiter is exact.** Every call finds the level and is told accordingly; so no stretch of calls
takes more than the burst and what comes back during it, a call is turned away only where one more token
would break that bound, and calls that take nothing move nothing but the clock. -/
theorem replies_exact :
    (∀ j, (hj : j < h.calls.length) → h.replies[j]? = some (match h.calls[j] with
        | .acquire _ => .admitted (decide (1 ≤ h.level (j + 1)))
        | .available _ => .tokens (h.level (j + 1)))) ∧
      (∀ i j, i ≤ j → j ≤ h.calls.length →
        ∑ k ∈ Finset.Icc i j, h.taken k ≤ h.burst.toNat + h.returned i j) ∧
      (∀ j, h.replies[j]? = some (.admitted false) → ∃ i ≤ j + 1,
        h.burst.toNat + h.returned i (j + 1) < ∑ k ∈ Finset.Ico i (j + 1), h.taken k + 1) ∧
      ∀ j, (hj : j < h.calls.length) → h.taken (j + 1) = 0 →
        (∀ d ∈ h.calls[j + 1]?, h.calls[j].now ≤ max (h.clock j) d.now) →
        (h.without j).replies = h.replies.eraseIdx j := by
  refine ⟨fun j hj => ?_, fun i j => h.sum_taken_le, fun j hdenied => ?_,
    fun j hj => h.replies_without hj⟩
  · rw [h.replies_eq_answer hj]
    cases h.calls[j] <;> rfl
  · have hj : j < h.calls.length := by
      have hsome := (List.getElem?_eq_some_iff.1 hdenied).1
      rwa [replies, Bucket.length_run] at hsome
    -- The stretch is one of least allowance: less than one token is left of it
    obtain ⟨i, hi, heq⟩ := h.exists_level_eq_allowance (j + 1)
    refine ⟨i, hi, ?_⟩
    rw [h.replies_eq_answer hj] at hdenied
    have hlow : h.level (j + 1) < 1 := by
      cases hcall : h.calls[j] with
      | acquire now =>
        rw [hcall] at hdenied
        simpa [Call.answer] using hdenied
      | available now =>
        rw [hcall] at hdenied
        cases hdenied
    rw [heq] at hlow
    simp only [allowance] at hlow
    linarith

/-- One token a second and a burst of one: the second call is denied, the third is served after a second,
the fourth comes with an instant long past. -/
def briefHistory : History :=
  ⟨⟨1, rfl, by decide⟩, 1, 5, [.acquire 5, .acquire 7, .acquire 1000000005, .available 0]⟩

theorem replies_exact_brief :
    (briefHistory.replies[2]? = some (.admitted (decide (1 ≤ briefHistory.level 3)))) ∧
      (∑ k ∈ Finset.Icc 1 3, briefHistory.taken k ≤ (1 : UInt32).toNat + briefHistory.returned 1 3) ∧
      (∃ i ≤ 2, (1 : UInt32).toNat + briefHistory.returned i 2 <
        ∑ k ∈ Finset.Ico i 2, briefHistory.taken k + 1) ∧
      (briefHistory.without 1).replies = [.admitted true, .admitted true, .tokens 0] := by
  obtain ⟨hreplies, hbound, hdenied, hwithout⟩ := replies_exact briefHistory
  refine ⟨hreplies 2 (by decide), hbound 1 3 (by decide) (by decide), hdenied 1 (by decide +kernel), ?_⟩
  rw [hwithout 1 (by decide) (by decide +kernel) (by decide)]
  decide +kernel

/-- A read far ahead of the clock lets a call at an earlier instant through that would be turned away
without it. -/
theorem read_ahead_changes_decision :
    (Bucket.full (⟨1, rfl, by decide⟩ : Rate ℚ) 1 0).run
        [.acquire 0, .available 1000000000, .acquire 0] =
      [.admitted true, .tokens 1, .admitted true] ∧
    (Bucket.full (⟨1, rfl, by decide⟩ : Rate ℚ) 1 0).run [.acquire 0, .acquire 0] =
      [.admitted true, .admitted false] := by
  decide +kernel

end History

end TelemetryGateway.Admission
