import TelemetryGateway.Admission.Bucket

/-!
# Rate limiting by key

Each key has a bucket of its own, which comes into being full when the key is first seen. Requests
without a key share the bucket of one reserved key.

## Main definitions

- `KeyedLimiter`: rate, burst and the buckets of the keys seen so far
- `Limiter`: a keyed limiter, or none
- `Limiter.create`: the limiter of a configuration
- `Limiter.allow`: whether a request is let through
-/

namespace TelemetryGateway.Admission

open Arithmetic (ceilUpTo)

/-- The key of requests without one. -/
def unknownKey : String := "unknown"

/-- The key under which a request is counted. -/
def normalizeKey (key : String) : String :=
  if key.isEmpty then unknownKey else key

/-- A list of buckets in which the one of a key is set. -/
def setBucket {β : Type} (key : String) (b : β) : List (String × β) → List (String × β)
  | [] => [(key, b)]
  | (k, c) :: rest => if k = key then (k, b) :: rest else (k, c) :: setBucket key b rest

/-- A limiter with a bucket for each key. -/
structure KeyedLimiter (α : Type) [Arithmetic α] where
  rate : Rate α
  burst : UInt32
  /-- The buckets of the keys seen so far, each key once. -/
  buckets : List (String × Bucket α)

namespace KeyedLimiter

variable {α : Type} [Arithmetic α]

/-- The burst that is meant: zero stands for the rate rounded up to a whole number, at least one. -/
def effectiveBurst (perSecond : α) (burst : UInt32) : UInt32 :=
  if burst = 0 then UInt32.ofNat (max (ceilUpTo 0xFFFFFFFF perSecond) 1) else burst

def create (rate : Rate α) (burst : UInt32) : KeyedLimiter α where
  rate := rate
  burst := effectiveBurst rate.perSecond burst
  buckets := []

/-- The bucket of a key, a full one if the key has not been seen. -/
def bucketFor (l : KeyedLimiter α) (key : String) (now : Nat) : Bucket α :=
  (l.buckets.lookup key).getD (.full l.rate l.burst now)

def allow (l : KeyedLimiter α) (key : String) (now : Nat) : Bool × KeyedLimiter α :=
  let key := normalizeKey key
  let (yes, b) := (l.bucketFor key now).acquire now
  (yes, { l with buckets := setBucket key b l.buckets })

end KeyedLimiter

/-- A limiter that may be switched off. -/
inductive Limiter (α : Type) [Arithmetic α] where
  | disabled
  | keyed (l : KeyedLimiter α)

namespace Limiter

variable {α : Type} [Arithmetic α]

/-- The limiter of a configuration: none where it is not wanted or the number is no rate. -/
def create (enabled : Bool) (perSecond : α) (burst : UInt32) : Limiter α :=
  if enabled then
    match Rate.ofPerSecond? perSecond with
    | some rate => .keyed (.create rate burst)
    | none => .disabled
  else .disabled

def enabled : Limiter α → Bool
  | .disabled => false
  | .keyed _ => true

def allow (l : Limiter α) (key : String) (now : Nat) : Bool × Limiter α :=
  match l with
  | .disabled => (true, .disabled)
  | .keyed k => let (yes, k) := k.allow key now; (yes, .keyed k)

def trackedKeys : Limiter α → Nat
  | .disabled => 0
  | .keyed k => k.buckets.length

end Limiter

end TelemetryGateway.Admission
