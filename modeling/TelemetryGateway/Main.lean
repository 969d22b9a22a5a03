import TelemetryGateway.Lifecycle.Run

/-!
# The command

The program on a command line. Settings come from a file and from the environment; lines go to the two
streams. No network is connected: the transports listen to nobody, and a health check reaches nobody.
The end of standard input is the signal to end.

## Main definitions

- `main`: the command
-/

namespace TelemetryGateway

open TelemetryGateway.Lifecycle
open TelemetryGateway.Settings (Environment)

def readText? (path : String) : IO (Option String) := do
  let .ok text ← (IO.FS.readFile path).toBaseIO | return none
  return some text

/-- The variables of this process. -/
def readEnvironment : IO Environment := do
  return Environment.ofText ((← readText? "/proc/self/environ").getD "")

/-- What this process finds around it before a signal. -/
def readSurroundings (args : List String) : IO Surroundings := do
  let environment ← readEnvironment
  let texts ← (filesOf environment args).filterMapM fun path => do
    return (← readText? path).map fun text => (path, text)
  return {
    file? := fun path => texts.lookup path
    environment := environment
    busy := []
    signalled := false
    network := fun _ => none }

def write (o : Output) : IO Unit := do
  o.stdout.forM fun l => IO.println l.display
  o.stderr.forM fun l => IO.eprintln l.display
  (← IO.getStdout).flush

/-- Wait for the end of a stream. -/
partial def waitForEnd (input : IO.FS.Stream) : IO Unit := do
  if !(← input.read 4096).isEmpty then waitForEnd input

end TelemetryGateway

open TelemetryGateway in
/-- The command: the program up to a signal, and the rest of it behind the signal. -/
def main (args : List String) : IO UInt32 := do
  let around ← readSurroundings args
  let first := Lifecycle.run around args
  write first
  match first.exit with
  | some status => return .ofNat status
  | none =>
    waitForEnd (← IO.getStdin)
    let last := Lifecycle.run { around with signalled := true } args
    write (last.beyond first)
    return .ofNat (last.exit.getD 0)
