import TelemetryGateway.CommandLine.Arguments
import TelemetryGateway.Text.Terminal

/-!
# Pages of help

What the program tells of itself: its version, and how to call it. The page of the program comes in full
and in short. Pages are laid out for a terminal, with options in bold, and shown without its commands,
which may also be in the values of variables.

## Main definitions

- `versionLine`: the name and the version of the program
- `Topic.lines`: a page
-/

namespace TelemetryGateway.CommandLine

open TelemetryGateway.Settings (Environment)
open TelemetryGateway.Text (bold withoutCommands)

def programName : String := "telegate"

def versionLine : String := programName ++ " 0.1.0"

def Command.about : Command → String
  | .serve => "Run the gRPC and HTTP listeners (default)"
  | .healthcheck => "Probe the HTTP health endpoint and exit 0 when healthy"

def aboutHelp : String := "Print this message or the help of the given subcommand(s)"

def Setting.about : Setting → String
  | .config => "Path to the YAML configuration file"
  | .logLevel => "Log level override: error, warn, info, debug, trace"

/-- The note on the variable that stands in for an option, with its value. -/
def Setting.variableNote (s : Setting) (env : Environment) : String :=
  "[env: " ++ s.variable ++ "=" ++ (env.get? s.variable).getD "" ++ "]"

/-- A note that goes on in the next lines at a column. -/
def hanging (column : Nat) (note : String) : String :=
  String.ofList (note.toList.flatMap fun c =>
    if c = '\n' then c :: List.replicate column ' ' else [c])

def defaultNote : String := "[default: " ++ defaultPath ++ "]"

def commandLines : List String :=
  [ "Commands:",
    "  serve        " ++ Command.serve.about,
    "  healthcheck  " ++ Command.healthcheck.about,
    "  help         " ++ aboutHelp ]

def usageLine : String := "Usage: " ++ programName ++ " [OPTIONS] [COMMAND]"

def shortPage (env : Environment) : List String :=
  ["Telemetry ingestion gateway", "", usageLine, ""] ++ commandLines ++
    [ "",
      "Options:",
      "  " ++ bold "-c" ++ ", " ++ bold "--config" ++ " <PATH>      " ++ Setting.config.about ++ " " ++
        hanging noteColumn (Setting.config.variableNote env) ++ " " ++ defaultNote,
      "      " ++ bold "--log-level" ++ " <LEVEL>  " ++ Setting.logLevel.about ++ " " ++
        hanging noteColumn (Setting.logLevel.variableNote env),
      "  " ++ bold "-h" ++ ", " ++ bold "--help" ++ "               Print help (see more with '--help')",
      "  " ++ bold "-V" ++ ", " ++ bold "--version" ++ "            Print version" ]
where
  noteColumn : Nat := 27

/-- A note below an option. -/
def indented (note : String) : String := "          " ++ hanging 10 note

def fullPage (env : Environment) : List String :=
  [ "Accepts telemetry packets over gRPC and HTTP, validates them and forwards them to the indexer.",
    "",
    "Any configuration key can be overridden with TELEGATE__<SECTION>__<KEY> environment variables, " ++
      "e.g. TELEGATE__SERVER__HTTP_PORT=9090.",
    "",
    usageLine,
    "" ] ++ commandLines ++
    [ "",
      "Options:",
      "  " ++ bold "-c" ++ ", " ++ bold "--config" ++ " <PATH>",
      indented Setting.config.about,
      "",
      indented (Setting.config.variableNote env),
      indented defaultNote,
      "",
      "      " ++ bold "--log-level" ++ " <LEVEL>",
      indented Setting.logLevel.about,
      "",
      indented (Setting.logLevel.variableNote env),
      "",
      "  " ++ bold "-h" ++ ", " ++ bold "--help",
      indented "Print help (see a summary with '-h')",
      "",
      "  " ++ bold "-V" ++ ", " ++ bold "--version",
      indented "Print version" ]

def Command.page (c : Command) : List String :=
  [ c.about, "", "Usage: " ++ programName ++ " " ++ c.name, "", "Options:",
    "  -h, --help  Print help" ]

def helpPage : List String :=
  [ aboutHelp, "", "Usage: " ++ programName ++ " help [COMMAND]...", "", "Arguments:",
    "  [COMMAND]...  Print help for the subcommand(s)" ]

/-- A page as it is laid out for a terminal. -/
def Topic.layout (env : Environment) : Topic → List String
  | .program true => fullPage env
  | .program false => shortPage env
  | .command c => c.page
  | .help => helpPage

def Topic.lines (env : Environment) (t : Topic) : List String :=
  ((withoutCommands ("\n".intercalate (t.layout env))).toList.splitOn '\n').map String.ofList

end TelemetryGateway.CommandLine
