import TelemetryGateway.Lifecycle.Task

/-!
# Supervision of transports

The process waits for the first of two things: a signal, or the end of a transport. Either way it calls
the transports to shut down, and joins those that are left. When none is left it closes the indexer. The
first bad end of a transport becomes the fault of the process.

## Main definitions

- `Happening`: what the process waits for
- `Action`: what the process does
- `Supervisor`: where the process stands
- `Supervisor.run`: the actions in answer to a list of happenings
-/

namespace TelemetryGateway.Lifecycle

open TelemetryGateway.Log (Event)

/-- What the process waits for. -/
inductive Happening where
  | signal
  | ended (e : TaskEnd)
deriving DecidableEq, Repr

/-- What the process does. -/
inductive Action where
  | report (e : Event)
  /-- The transports are called to shut down. -/
  | raiseFlag
  /-- The end of a transport is taken notice of. -/
  | join (e : TaskEnd)
  | closeIndexer
deriving DecidableEq, Repr

/-- Where the process stands. -/
structure Supervisor where
  /-- The transports that have not been joined. -/
  running : Nat
  /-- The transports have been called to shut down. -/
  stopping : Bool := false
  fault : Option String := none
deriving DecidableEq, Repr

namespace Supervisor

/-- All transports have been joined, and the process has nothing to wait for. -/
def isDone (s : Supervisor) : Bool := s.stopping && s.running == 0

/-- The actions of the end of a transport. -/
def joining (e : TaskEnd) : List Action := [.join e, .report e.report]

/-- The call to shut down, which is made once. -/
def calling (s : Supervisor) : List Action := if s.stopping then [] else [.raiseFlag]

/-- The close of the indexer, when the last transport has been joined. -/
def closing (s : Supervisor) : List Action := if s.isDone then [.closeIndexer] else []

/-- The end of a transport. -/
def joined (s : Supervisor) (e : TaskEnd) : Supervisor where
  running := s.running - 1
  stopping := true
  fault := s.fault.or e.fault?

/-- The answer to a happening. -/
def step (s : Supervisor) : Happening → Supervisor × List Action
  -- A signal counts only before the call to shut down
  | .signal =>
    if s.stopping then (s, [])
    else
      let t := { s with stopping := true }
      (t, .report .signalReceived :: s.calling ++ t.closing)
  | .ended e =>
    let t := s.joined e
    (t, joining e ++ s.calling ++ t.closing)

/-- Where the process stands after a list of happenings, and what it has done. -/
def run (s : Supervisor) : List Happening → Supervisor × List Action
  | [] => (s, [])
  | h :: hs =>
    -- Nothing happens any more
    if s.isDone then (s, [])
    else
      let (t, actions) := s.step h
      let (last, rest) := t.run hs
      (last, actions ++ rest)

end Supervisor

end TelemetryGateway.Lifecycle
