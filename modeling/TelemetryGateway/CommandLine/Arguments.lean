import TelemetryGateway.Settings.Sources

/-!
# Command-line arguments

What the program is asked to do. Two options, each with a value and given at most once, stand before the
name of a command; a variable of the environment stands in for an option that is not given. The first
fault in the order of the arguments counts. A value that stands apart from its option is looked at only
when the next option starts or the arguments end.

## Main definitions

- `Invocation`: what is asked for
- `Request`: an invocation, or a page of help
- `UsageError`: why arguments make no sense
- `parse`: the request of arguments and an environment
-/

namespace TelemetryGateway.CommandLine

open TelemetryGateway.Settings (Environment)

inductive Command where
  | serve
  | healthcheck
deriving DecidableEq, Repr

def Command.name : Command → String
  | .serve => "serve"
  | .healthcheck => "healthcheck"

/-- What is asked for. -/
structure Invocation where
  /-- The path of the settings. -/
  config : String
  /-- The level of records, if it is not the one of the settings. -/
  logLevel : Option String
  command : Command
deriving DecidableEq, Repr

/-- A page that is asked for. -/
inductive Topic where
  /-- The program, in full or in short. -/
  | program (full : Bool)
  | command (c : Command)
  /-- The command that shows pages. -/
  | help
deriving DecidableEq, Repr

inductive Request where
  | run (i : Invocation)
  | page (t : Topic)
  | version
deriving DecidableEq, Repr

/-- Why arguments make no sense. -/
inductive UsageError where
  | unknownArgument
  | unknownCommand
  /-- A value is missing, or empty where it must not be. -/
  | badValue
  | surplusValue
  | repeatedOption
deriving DecidableEq, Repr

/-- Why the reading of arguments ends early. -/
inductive Stop where
  | error (e : UsageError)
  | page (t : Topic)
  | version
deriving DecidableEq, Repr

/-- The options that take a value. -/
inductive Setting where
  | config
  | logLevel
deriving DecidableEq, Repr

/-- The variable that stands in for an option. -/
def Setting.variable : Setting → String
  | .config => "TELEGATE_CONFIG"
  | .logLevel => "TELEGATE_LOG_LEVEL"

def longOption? (name : List Char) : Option Setting :=
  if name = "config".toList then some .config
  else if name = "log-level".toList then some .logLevel
  else none

/-- The options that have been read. -/
structure Draft where
  config : Option String := none
  logLevel : Option String := none
  /-- The option that waits for its value, which may have come. -/
  pending : Option (Setting × Option String) := none

namespace Draft

def value? (d : Draft) : Setting → Option String
  | .config => d.config
  | .logLevel => d.logLevel

def set (d : Draft) (s : Setting) (value : String) : Draft :=
  match s with
  | .config => { d with config := some value }
  | .logLevel => { d with logLevel := some value }

/-- A value may be given to an option: a path is not empty. -/
def fits (s : Setting) (value : String) : Bool :=
  s ≠ .config || !value.isEmpty

/-- One option more. -/
def give (d : Draft) (s : Setting) (value : Option String) : Except Stop Draft :=
  match value with
  | none => .error (.error .badValue)
  | some v =>
    -- An option that is repeated is at fault before its value is
    if (d.value? s).isSome then .error (.error .repeatedOption)
    else if fits s v then .ok (d.set s v)
    else .error (.error .badValue)

/-- The option that waits for its value gets what has come. -/
def settle (d : Draft) : Except Stop Draft :=
  match d.pending with
  | none => .ok d
  | some (s, value) => { d with pending := none }.give s value

def wantsValue (d : Draft) : Bool :=
  match d.pending with
  | some (_, none) => true
  | _ => false

/-- A value for the option that waits for one. -/
def supply (d : Draft) (value : String) : Draft :=
  { d with pending := d.pending.map fun p => (p.1, some value) }

end Draft

/-- What follows the first equals sign, if there is one. -/
def attached (cs : List Char) : Option String :=
  match cs.dropWhile (· != '=') with
  | [] => none
  | _ :: value => some (String.ofList value)

/-- An option starts, whose value may be attached to it. -/
def startOption (d : Draft) (s : Setting) (value : Option String) : Except Stop Draft := do
  -- The option before this one has to have its value by now
  let d ← d.settle
  match value with
  | some v => d.give s (some v)
  | none => .ok { d with pending := some (s, none) }

/-- A page is asked for by an option, which takes no value. -/
def stopFor (d : Draft) (stop : Stop) (value : Option String) : Except Stop Draft := do
  if value.isSome then .error (.error .surplusValue)
  else
    let _ ← d.settle
    .error stop

/-- An option by its name in full, without the dashes. -/
def readLong (d : Draft) (cs : List Char) : Except Stop Draft :=
  let name := cs.takeWhile (· != '=')
  match longOption? name with
  | some s => startOption d s (attached cs)
  | none =>
    if name = "help".toList then stopFor d (.page (.program true)) (attached cs)
    else if name = "version".toList then stopFor d .version (attached cs)
    else .error (.error .unknownArgument)

/-- An option by its letter, without the dash. -/
def readShort (d : Draft) : List Char → Except Stop Draft
  -- The value may follow at once or behind an equals sign
  | 'c' :: '=' :: value => startOption d .config (some (String.ofList value))
  | ['c'] => startOption d .config none
  | 'c' :: value => startOption d .config (some (String.ofList value))
  | 'h' :: _ => stopFor d (.page (.program false)) none
  | 'V' :: _ => stopFor d .version none
  | _ => .error (.error .unknownArgument)

/-- The commands and the one that shows pages. -/
def topicOf? (name : String) : Option Topic :=
  if name = Command.serve.name then some (.command .serve)
  else if name = Command.healthcheck.name then some (.command .healthcheck)
  else if name = "help" then some .help
  else none

/-- The page that the command for pages is asked for: no command has commands of its own. -/
def pageOf : List String → Stop
  | [] => .page (.program true)
  | [name] =>
    match topicOf? name with
    | some t => .page t
    | none => .error .unknownCommand
  | _ => .error .unknownCommand

/-- The arguments behind a command, which takes none but the option for its page. -/
def readCommand (c : Command) : List String → Except Stop Unit
  | [] => .ok ()
  | arg :: args =>
    match arg.toList with
    | ['-', '-'] => if args.isEmpty then .ok () else .error (.error .unknownArgument)
    | '-' :: 'h' :: _ => .error (.page (.command c))
    | '-' :: '-' :: cs =>
      if cs = "help".toList then .error (.page (.command c))
      else if "help=".toList.isPrefixOf cs then .error (.error .surplusValue)
      else .error (.error .unknownArgument)
    | _ => .error (.error .unknownArgument)

/-- The arguments behind the mark that ends options: there should be none. -/
def readRest (d : Draft) : List String → Except Stop (Draft × Command)
  | [] => d.settle.map fun d => (d, .serve)
  | arg :: _ =>
    match topicOf? arg with
    | some _ => .error (.error .unknownArgument)
    | none => .error (.error .unknownCommand)

/-- The options and the command of arguments. -/
def readArguments (d : Draft) : List String → Except Stop (Draft × Command)
  | [] => d.settle.map fun d => (d, .serve)
  | arg :: args =>
    match arg.toList with
    | ['-', '-'] => readRest d args
    | '-' :: '-' :: cs => do readArguments (← readLong d cs) args
    | '-' :: c :: cs => do readArguments (← readShort d (c :: cs)) args
    -- No option: a value that is waited for, or the command
    | _ =>
      if d.wantsValue then readArguments (d.supply arg) args
      else
        match topicOf? arg with
        | none => .error (.error .unknownCommand)
        | some (.command c) => do
          readCommand c args
          let d ← d.settle
          .ok (d, c)
        | some _ => .error (pageOf args)

/-- The value of an option: the one given, or the one of the variable that stands in for it. -/
def effective (env : Environment) (d : Draft) (s : Setting) : Except Stop (Option String) :=
  match d.value? s, env.get? s.variable with
  | some v, _ => .ok (some v)
  | none, none => .ok none
  -- A variable is held to the same rule as an option
  | none, some v => if Draft.fits s v then .ok (some v) else .error (.error .badValue)

def defaultPath : String := "config.yaml"

def readInvocation (env : Environment) (args : List String) : Except Stop Invocation := do
  let (d, command) ← readArguments {} args
  let config ← effective env d .config
  let logLevel ← effective env d .logLevel
  .ok ⟨config.getD defaultPath, logLevel, command⟩

/-- The request of arguments, without the name of the program, and an environment. -/
def parse (env : Environment) (args : List String) : Except UsageError Request :=
  match readInvocation env args with
  | .ok i => .ok (.run i)
  | .error (.page t) => .ok (.page t)
  | .error .version => .ok .version
  | .error (.error e) => .error e

end TelemetryGateway.CommandLine
