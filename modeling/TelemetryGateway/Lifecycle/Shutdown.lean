/-!
# The call to shut down

Whoever runs the transports tells them to stop through a flag that can be set either way and of which
they see the latest value only. They stop when they see it set, and when nobody is left to set it. A
transport that waits looks at the flag only when it has changed since the last look.

## Main definitions

- `Flag`: the flag, with a count of its changes
- `Update`: what happens to a flag
- `Waiter`: a transport that waits
- `Waiter.poll`: a look at the flag
-/

namespace TelemetryGateway.Lifecycle

/-- A flag. -/
structure Flag where
  value : Bool
  /-- How often it has been set. -/
  version : Nat := 0
  /-- Nobody is left to set it. -/
  abandoned : Bool := false
deriving DecidableEq, Repr

/-- What happens to a flag. -/
inductive Update where
  | set (value : Bool)
  | abandon
  | nothing
deriving DecidableEq, Repr

/-- The flag after an update. -/
def Flag.update (f : Flag) : Update → Flag
  -- Nobody is left to set an abandoned flag
  | .set v => if f.abandoned then f else { f with value := v, version := f.version + 1 }
  | .abandon => { f with abandoned := true }
  | .nothing => f

/-- A transport that waits for the call to shut down. -/
inductive Waiter where
  | fresh
  /-- It has seen so many changes, and none of them was the call. -/
  | waiting (seen : Nat)
  | finished
deriving DecidableEq, Repr

namespace Waiter

/-- A look at the latest value. -/
def look (f : Flag) : Waiter :=
  if f.value || f.abandoned then .finished else .waiting f.version

/-- A turn of a transport that waits. -/
def poll (f : Flag) : Waiter → Waiter
  | .fresh => look f
  | .waiting seen =>
    -- It looks only if there is a change that it has not seen
    if seen ≠ f.version then look f
    else if f.abandoned then .finished
    else .waiting seen
  | .finished => .finished

def isFinished (w : Waiter) : Bool := w = .finished

end Waiter

/-- Whether the wait is over after each of a list of updates, each with a turn behind it. -/
def watch (f : Flag) (w : Waiter) : List Update → List Bool
  | [] => []
  | u :: us =>
    let f := f.update u
    let w := w.poll f
    w.isFinished :: watch f w us

/-- Whether the wait is over at first and after each of a list of updates. -/
def watchAll (initial : Bool) (updates : List Update) : List Bool :=
  let f : Flag := { value := initial }
  let w := Waiter.fresh.poll f
  w.isFinished :: watch f w updates

end TelemetryGateway.Lifecycle
