import TelemetryGateway.Http.Cors
import TelemetryGateway.Log.Event
import TelemetryGateway.Lifecycle.Shutdown

/-!
# Transports as tasks

Each transport is a task of its own. It starts to listen, serves until it is called to shut down, and
ends; it ends at once if it cannot start.

## Main definitions

- `TaskEnd`: how a task ends
- `Startup`: what comes of starting a transport
- `startHttp`, `startGrpc`: the start of each transport
- `Startup.turns`: whether the task of a transport has ended by each of its turns
-/

namespace TelemetryGateway.Lifecycle

open TelemetryGateway.Http (Policy)
open TelemetryGateway.Log (Event)

/-- How a task ends. -/
inductive TaskEnd where
  | completed
  | failed (message : String)
  /-- It is broken off, by a fault of its own or from outside. -/
  | panicked
deriving DecidableEq, Repr

namespace TaskEnd

/-- What is reported of an end. -/
def report : TaskEnd → Event
  | .completed => .taskCompleted
  | .failed message => .taskFailed message
  | .panicked => .taskPanicked

/-- What an end makes of the whole process, if it is no good end. -/
def fault? : TaskEnd → Option String
  | .completed => none
  | .failed message => some message
  | .panicked => some "Transport task panicked"

end TaskEnd

/-- What comes of starting a transport. -/
structure Startup where
  events : List Event
  /-- How the task ends at once; it serves if this is missing. -/
  ended : Option TaskEnd
deriving DecidableEq, Repr

/-- The start of HTTP at an address. The policy is settled first, then the port is taken; `busy` says
that somebody else has it. -/
def startHttp (cors : Settings.Cors) (address : String) (busy : Bool) : Startup :=
  match Policy.ofSettings cors with
  | .error flaw =>
    match flaw.message? with
    | some message => ⟨[], some (.failed message)⟩
    | none => ⟨[], some .panicked⟩
  | .ok _ =>
    if busy then ⟨[], some (.failed ("failed to bind HTTP listener on " ++ address))⟩
    else ⟨[.listening .http address], none⟩

/-- The start of gRPC at an address, which is told before the port is taken. -/
def startGrpc (address : String) (busy : Bool) : Startup :=
  ⟨[.listening .grpc address], if busy then some (.failed "transport error") else none⟩

/-- A moment in the life of a transport. -/
inductive Moment where
  /-- Something happens to the flag while the transport has no turn. -/
  | update (u : Update)
  | turn
deriving DecidableEq, Repr

namespace Startup

/-- The task has ended: at its start, or because the wait is over. -/
def hasEnded (s : Startup) (w : Waiter) : Bool :=
  s.ended.isSome || w.isFinished

/-- Whether the task has ended by each of its turns. -/
def turns (s : Startup) (f : Flag) (w : Waiter) : List Moment → List Bool
  | [] => []
  | .update u :: ms => turns s (f.update u) w ms
  | .turn :: ms =>
    let w := w.poll f
    s.hasEnded w :: turns s f w ms

/-- How the task ends once the flag is abandoned. -/
def finalEnd (s : Startup) : TaskEnd := s.ended.getD .completed

end Startup

end TelemetryGateway.Lifecycle
