import TelemetryGateway.Admission.Arithmetic

/-!
# Rates

How many tokens come back in a second. A rate is a finite positive number. Spans of time and instants
are whole nanoseconds.

## Main definitions

- `Rate`: a finite positive count of tokens per second
- `Rate.ofPerSecond?`: the rate of a number, if it is one
- `Rate.accrued`: the tokens that come back in a span of time
- `Rate.period`: the whole nanoseconds after which a token has come back
-/

namespace TelemetryGateway.Admission

open Arithmetic (ofNat add mul div lt finite ceilUpTo)

def nanosPerSecond : Nat := 1000000000

/-- The number of seconds in a span: the whole seconds, plus the rest divided by a thousand
million. -/
def seconds {α : Type} [Arithmetic α] (nanos : Nat) : α :=
  add (ofNat (nanos / nanosPerSecond))
    (div (ofNat (nanos % nanosPerSecond)) (ofNat nanosPerSecond))

/-- A finite positive count of tokens per second. -/
structure Rate (α : Type) [Arithmetic α] where
  perSecond : α
  isFinite : finite perSecond = true
  isPositive : lt (ofNat 0) perSecond = true

namespace Rate

variable {α : Type} [Arithmetic α]

def ofPerSecond? (n : α) : Option (Rate α) :=
  if h : finite n = true ∧ lt (ofNat 0) n = true then some ⟨n, h.1, h.2⟩ else none

/-- The tokens that come back in a span of time. -/
def accrued (r : Rate α) (nanos : Nat) : α :=
  mul (seconds nanos) r.perSecond

/-- The nanoseconds after which a token has come back: their exact count rounded up, and one more where
rounding has left that short of a token. -/
def period (r : Rate α) : Nat :=
  let nanos := ceilUpTo 0xFFFFFFFFFFFFFFFF (div (ofNat nanosPerSecond) r.perSecond)
  if lt (r.accrued nanos) (ofNat 1) then nanos + 1 else nanos

end Rate

end TelemetryGateway.Admission
