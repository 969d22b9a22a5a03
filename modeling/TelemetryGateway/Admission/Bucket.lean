import TelemetryGateway.Admission.Rate

/-!
# Token buckets

A bucket starts full. Each admission takes one token, and tokens come back at a rate, up to the
capacity. Tokens are brought up to date at the calls only; a clock that stands still or runs backwards
brings nothing back.

## Main definitions

- `Bucket`: rate, capacity, tokens and the instant they were counted
- `Bucket.acquire`, `Bucket.available`: asking for a token, and reading the count
- `Call`, `Bucket.run`: a sequence of calls and what they are told
-/

namespace TelemetryGateway.Admission

open Arithmetic (ofNat add sub le)

structure Bucket (α : Type) [Arithmetic α] where
  rate : Rate α
  /-- The most tokens it holds. -/
  burst : UInt32
  /-- The tokens at the last refill, less those taken since. -/
  tokens : α
  /-- The instant of the last refill. -/
  lastRefill : Nat

namespace Bucket

variable {α : Type} [Arithmetic α]

def full (rate : Rate α) (burst : UInt32) (now : Nat) : Bucket α where
  rate := rate
  burst := burst
  tokens := ofNat burst.toNat
  lastRefill := now

def capacity (b : Bucket α) : α := ofNat b.burst.toNat

/-- The bucket at an instant. -/
def refill (b : Bucket α) (now : Nat) : Bucket α :=
  let elapsed := now - b.lastRefill
  -- The clock stands still, or runs backwards
  if elapsed = 0 then b
  else
    { b with
      tokens := Arithmetic.min (add b.tokens (b.rate.accrued elapsed)) b.capacity
      lastRefill := now }

@[simp] theorem refill_rate (b : Bucket α) (now : Nat) : (b.refill now).rate = b.rate := by
  simp only [refill]
  split <;> rfl

@[simp] theorem refill_burst (b : Bucket α) (now : Nat) : (b.refill now).burst = b.burst := by
  simp only [refill]
  split <;> rfl

/-- A refill brings the clock of a bucket forward, never back. -/
@[simp] theorem refill_lastRefill (b : Bucket α) (now : Nat) :
    (b.refill now).lastRefill = max b.lastRefill now := by
  simp only [refill]
  split
  · omega
  · show now = max b.lastRefill now
    omega

/-- Takes a token, if there is a whole one. -/
def acquire (b : Bucket α) (now : Nat) : Bool × Bucket α :=
  let b := b.refill now
  if le (ofNat 1) b.tokens then (true, { b with tokens := sub b.tokens (ofNat 1) }) else (false, b)

def available (b : Bucket α) (now : Nat) : α × Bucket α :=
  let b := b.refill now
  (b.tokens, b)

end Bucket

/-- A call to a bucket at an instant. -/
inductive Call where
  | acquire (now : Nat)
  | available (now : Nat)
deriving DecidableEq, Repr

def Call.now : Call → Nat
  | .acquire now | .available now => now

/-- What a call is told. -/
inductive Reply (α : Type) where
  | admitted (yes : Bool)
  | tokens (count : α)
deriving DecidableEq, Repr

namespace Bucket

variable {α : Type} [Arithmetic α]

def call (b : Bucket α) : Call → Reply α × Bucket α
  | .acquire now => let (yes, b) := b.acquire now; (.admitted yes, b)
  | .available now => let (count, b) := b.available now; (.tokens count, b)

/-- The bucket after a sequence of calls. -/
def after (b : Bucket α) : List Call → Bucket α
  | [] => b
  | c :: cs => (b.call c).2.after cs

/-- What each call of a sequence is told. -/
def run (b : Bucket α) : List Call → List (Reply α)
  | [] => []
  | c :: cs => (b.call c).1 :: (b.call c).2.run cs

end Bucket

end TelemetryGateway.Admission
