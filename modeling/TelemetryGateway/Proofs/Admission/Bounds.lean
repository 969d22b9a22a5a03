import Mathlib
import TelemetryGateway.Proofs.Admission.Floats
import TelemetryGateway.Proofs.Admission.Visits

/-!
# What a bucket holds, however it is rounded

Whatever the rate and the burst, and whatever calls come at whatever instants: a bucket never holds less than nothing or
more than its capacity, and what it holds is always a number. While the clock does not move on, nothing is rounded away,
so a full bucket lets through as many as its burst, and nobody after them.

## Main definitions

- `Bucket.Sound`: the count is a number between zero and the capacity
- `Bucket.Whole`: the count is a natural number

## Main statements

- `Bucket.Sound.call`, `Bucket.Sound.after`: one call, and a whole run
- `Bucket.Whole.admissions_eq`: calls at instants that are past
- `Bucket.tokens_bounded`: both, for a bucket that starts full
-/

namespace TelemetryGateway.Admission

open Arithmetic (ofNat)
open Number (Quantity Rounding)
open Rounds (quantity rounding)

/-- Whether a call asks for a token. -/
def Call.isAcquire : Call → Bool
  | .acquire _ => true
  | .available _ => false

/-- Whether a token was given, if one was asked for. -/
def Reply.admitted? {α : Type} : Reply α → Option Bool
  | .admitted yes => some yes
  | .tokens _ => none

namespace Bucket

/-! ## One call -/

section Calls

variable {α : Type} [Arithmetic α]

/-- What those calls of a run were told that asked for a token. -/
def admissions (b : Bucket α) (calls : List Call) : List Bool :=
  (b.run calls).filterMap Reply.admitted?

@[simp] theorem call_rate (b : Bucket α) (c : Call) : (b.call c).2.rate = b.rate := by
  cases c with
  | acquire now =>
    simp only [call, acquire]
    split <;> simp
  | available now => simp [call, available]

@[simp] theorem call_burst (b : Bucket α) (c : Call) : (b.call c).2.burst = b.burst := by
  cases c with
  | acquire now =>
    simp only [call, acquire]
    split <;> simp
  | available now => simp [call, available]

@[simp] theorem call_lastRefill (b : Bucket α) (c : Call) : (b.call c).2.lastRefill = max b.lastRefill c.now := by
  cases c with
  | acquire now =>
    simp only [call, acquire]
    split <;> simp [Call.now]
  | available now => simp [call, available, Call.now]

/-- The clock never runs back, so calls that are past stay so. -/
theorem later_past {b : Bucket α} {c : Call} {cs : List Call} (h : ∀ d ∈ c :: cs, d.now ≤ b.lastRefill) :
    ∀ d ∈ cs, d.now ≤ (b.call c).2.lastRefill := by
  intro d hd
  rw [call_lastRefill]
  exact le_max_of_le_left (h d (List.mem_cons_of_mem c hd))

theorem after_lastRefill {b : Bucket α} {calls : List Call} (h : ∀ c ∈ calls, c.now ≤ b.lastRefill) :
    (b.after calls).lastRefill = b.lastRefill := by
  induction calls generalizing b with
  | nil => rfl
  | cons c cs ih =>
    have hnow : c.now ≤ b.lastRefill := h c List.mem_cons_self
    rw [after, ih (later_past h), call_lastRefill, max_eq_left hnow]

@[simp] theorem after_rate (b : Bucket α) (calls : List Call) : (b.after calls).rate = b.rate := by
  induction calls generalizing b with
  | nil => rfl
  | cons c cs ih => rw [after, ih, call_rate]

@[simp] theorem after_burst (b : Bucket α) (calls : List Call) : (b.after calls).burst = b.burst := by
  induction calls generalizing b with
  | nil => rfl
  | cons c cs ih => rw [after, ih, call_burst]

@[simp] theorem admissions_nil (b : Bucket α) : b.admissions [] = [] := rfl

theorem admissions_available (b : Bucket α) (now : Nat) (cs : List Call) :
    b.admissions (.available now :: cs) = (b.call (.available now)).2.admissions cs := rfl

theorem admissions_acquire (b : Bucket α) (now : Nat) (cs : List Call) :
    b.admissions (.acquire now :: cs) = (b.acquire now).1 :: (b.call (.acquire now)).2.admissions cs := rfl

theorem burst_le (b : Bucket α) : b.burst.toNat ≤ 2 ^ 32 := b.burst.toNat_lt.le

end Calls

variable {α : Type} [Arithmetic α] [Rounds α] {b : Bucket α}

theorem quantity_one : quantity (ofNat 1 : α) = .number 1 := by
  simpa using quantity_ofNat_of_le (α := α) (n := 1) (by norm_num)

theorem quantity_capacity (b : Bucket α) : quantity b.capacity = .number b.burst.toNat :=
  quantity_ofNat_of_le b.burst_le

/-- A token is given exactly where there is a whole one. -/
theorem le_one_tokens {q : ℚ} (h : quantity b.tokens = .number q) :
    Arithmetic.le (ofNat 1) b.tokens = decide (1 ≤ q) := by
  rw [Rounds.le_eq, quantity_one, h]
  rfl

/-! ## Between nothing and the capacity -/

/-- The count is a number between zero and the capacity. -/
def Sound (b : Bucket α) : Prop := Between b.burst.toNat b.tokens

theorem sound_full (r : Rate α) (burst : UInt32) (start : Nat) : (full r burst start).Sound :=
  between_ofNat (full r burst start).burst_le

/-- What comes back is not negative, and what would be too much is cut off. -/
theorem Sound.refill (h : b.Sound) (now : Nat) : (b.refill now).Sound := by
  simp only [Bucket.refill]
  split
  · exact h
  · obtain ⟨q, hq, hnonneg, -⟩ := h
    apply min_between _ (quantity_capacity b)
    rw [Rounds.quantity_add, hq]
    exact Rounding.sum_nonneg _ (Quantity.nonneg_number hnonneg) (accrued_nonneg b.rate _)

/-- Where there is a whole token, what is left without it lies between zero and the capacity, and rounding leaves it
there. -/
theorem Sound.sub_one (h : b.Sound) (hwhole : Arithmetic.le (ofNat 1) b.tokens = true) :
    Between b.burst.toNat (Arithmetic.sub b.tokens (ofNat 1)) := by
  obtain ⟨q, hq, -, hle⟩ := h
  have hone : 1 ≤ q := by simpa [le_one_tokens hq] using hwhole
  have hlow : ((0 : Nat) : ℚ) ≤ q + -1 := by
    push_cast
    linarith
  have hhigh : q + -1 ≤ (b.burst.toNat : ℚ) := by linarith
  obtain ⟨p, hp, hnonneg, hbound⟩ := (rounding α .sub).round_between hlow hhigh b.burst_le
  refine ⟨p, ?_, by simpa using hnonneg, hbound⟩
  rw [Rounds.quantity_sub, hq, quantity_one]
  exact hp

/-- **One call.** -/
theorem Sound.call (h : b.Sound) (c : Call) : (b.call c).2.Sound := by
  cases c with
  | acquire now =>
    simp only [Bucket.call, Bucket.acquire]
    split
    · next hwhole => exact (h.refill now).sub_one hwhole
    · exact h.refill now
  | available now => exact h.refill now

/-- **A whole run.** -/
theorem Sound.after (h : b.Sound) (calls : List Call) : (b.after calls).Sound := by
  induction calls generalizing b with
  | nil => exact h
  | cons c cs ih => exact ih (h.call c)

/-- Also the counts that are told lie there. -/
theorem Sound.tokens_mem_run (h : b.Sound) {calls : List Call} {count : α} (hmem : .tokens count ∈ b.run calls) :
    Between b.burst.toNat count := by
  induction calls generalizing b with
  | nil => cases hmem
  | cons c cs ih =>
    rw [run, List.mem_cons] at hmem
    obtain hhead | htail := hmem
    · cases c with
      | acquire now => cases hhead
      | available now =>
        cases hhead
        have hrefill := h.refill now
        rwa [Sound, refill_burst] at hrefill
    · simpa using ih (h.call c) htail

/-! ## Calls at instants that are past -/

/-- The count is a natural number. -/
structure Whole (b : Bucket α) (k : Nat) : Prop where
  tokens : quantity b.tokens = .number k
  small : k ≤ 2 ^ 32

theorem whole_full (r : Rate α) (burst : UInt32) (start : Nat) : (full r burst start).Whole burst.toNat :=
  ⟨quantity_capacity (full r burst start), (full r burst start).burst_le⟩

/-- While the clock does not move on, one token less is there for each that asks, and none for who comes when they are
gone. -/
theorem Whole.acquire {k : Nat} (h : b.Whole k) (now : Nat) (hpast : now ≤ b.lastRefill) :
    (b.acquire now).1 = decide (0 < k) ∧ (b.acquire now).2.Whole (k - 1) := by
  rw [Bucket.acquire, refill_of_le hpast]
  cases k with
  | zero =>
    have hnone : ¬ Arithmetic.le (ofNat 1) b.tokens = true := by simp [le_one_tokens h.tokens]
    rw [if_neg hnone]
    exact ⟨rfl, h⟩
  | succ k =>
    have hwhole : Arithmetic.le (ofNat 1) b.tokens = true := by simp [le_one_tokens h.tokens]
    have hsmall : k ≤ 2 ^ 32 := Nat.le_of_succ_le h.small
    rw [if_pos hwhole]
    refine ⟨by simp, ?_, hsmall⟩
    rw [Rounds.quantity_sub, h.tokens, quantity_one]
    calc (rounding α .sub).round (((k + 1 : Nat) : ℚ) + -1)
        = (rounding α .sub).round (k : ℚ) := by
          push_cast
          ring_nf
      _ = .number k := Rounding.natCast _ hsmall

theorem Whole.available {k : Nat} (h : b.Whole k) (now : Nat) (hpast : now ≤ b.lastRefill) :
    (b.available now).2.Whole k := by
  rw [Bucket.available, refill_of_le hpast]
  exact h

/-- Each call that asks takes one token, as long as there are any. -/
theorem Whole.after {k : Nat} {calls : List Call} (h : b.Whole k) (hpast : ∀ c ∈ calls, c.now ≤ b.lastRefill) :
    (b.after calls).Whole (k - calls.countP Call.isAcquire) := by
  induction calls generalizing b k with
  | nil => exact h
  | cons c cs ih =>
    have hnow : c.now ≤ b.lastRefill := hpast c List.mem_cons_self
    have hlater := later_past hpast
    cases c with
    | available now =>
      rw [List.countP_cons_of_neg (by simp [Call.isAcquire])]
      exact ih (h.available now hnow) hlater
    | acquire now =>
      rw [List.countP_cons_of_pos (by simp [Call.isAcquire]), Nat.add_comm, Nat.sub_add_eq]
      exact ih (h.acquire now hnow).2 hlater

/-- Without the clock moving on, the tokens that are there are given out one by one, and reading the count costs
nothing. -/
theorem Whole.admissions_eq {k : Nat} {calls : List Call} (h : b.Whole k)
    (hpast : ∀ c ∈ calls, c.now ≤ b.lastRefill) :
    b.admissions calls = List.replicate (min (calls.countP Call.isAcquire) k) true ++
      List.replicate (calls.countP Call.isAcquire - k) false := by
  induction calls generalizing b k with
  | nil => simp
  | cons c cs ih =>
    have hnow : c.now ≤ b.lastRefill := hpast c List.mem_cons_self
    have hlater := later_past hpast
    cases c with
    | available now =>
      rw [admissions_available, List.countP_cons_of_neg (by simp [Call.isAcquire])]
      exact ih (h.available now hnow) hlater
    | acquire now =>
      rw [admissions_acquire, List.countP_cons_of_pos (by simp [Call.isAcquire])]
      obtain ⟨hyes, hwhole⟩ := h.acquire now hnow
      have hrest : (b.call (.acquire now)).2.admissions cs = _ := ih hwhole hlater
      rw [hyes, hrest]
      cases k with
      | zero => simp [List.replicate_succ]
      | succ k => simp [List.replicate_succ, Nat.add_min_add_right]

/-- **Token counts are bounded.** However the operations round, a bucket that starts full holds a number between zero
and its capacity after any calls, and tells nothing else. Of the calls at instants up to the start, exactly as many
are let through as its burst, and those first. -/
theorem tokens_bounded (r : Rate α) (burst : UInt32) (start : Nat) (calls : List Call) :
    quantity ((full r burst start).after calls).capacity = .number burst.toNat ∧
      Between burst.toNat ((full r burst start).after calls).tokens ∧
      (∀ count, .tokens count ∈ (full r burst start).run calls → Between burst.toNat count) ∧
      ((∀ c ∈ calls, c.now ≤ start) → (full r burst start).admissions calls =
        List.replicate (min (calls.countP Call.isAcquire) burst.toNat) true ++
          List.replicate (calls.countP Call.isAcquire - burst.toNat) false) := by
  have hfull := sound_full r burst start
  refine ⟨?_, ?_, fun count hmem => hfull.tokens_mem_run hmem, fun hpast => ?_⟩
  · rw [quantity_capacity, after_burst]
    rfl
  · have hafter := hfull.after calls
    rwa [Sound, after_burst] at hafter
  · exact (whole_full r burst start).admissions_eq hpast

/-- The greatest rate that a double can hold. What comes back in two seconds is infinite. -/
def greatestRate : Rate Float := .ofDouble ⟨0x7FEFFFFFFFFFFFFF⟩ (by decide) (by decide)

theorem tokens_bounded_greatest :
    Between 2 ((full greatestRate 2 5).after [.acquire 5, .acquire 2000000005]).tokens ∧
      (full greatestRate 2 5).admissions [.acquire 5, .available 3, .acquire 0, .acquire 5] = [true, true, false] :=
  ⟨(tokens_bounded greatestRate 2 5 _).2.1, (tokens_bounded greatestRate 2 5 _).2.2.2 (by decide)⟩

end Bucket

end TelemetryGateway.Admission
