import TelemetryGateway.Settings.Path
import TelemetryGateway.Settings.Reading
import TelemetryGateway.Yaml.Document

/-!
# Sources of settings

Settings come from a YAML text and from variables of the environment, which take precedence. The name of
a variable is a path to a setting: behind `TELEGATE` and two underscores, in letters of any case, with
two underscores between parts. The value of a variable is a truth value or a number if it can be read as
one; for a list of settings it is split at commas, and otherwise it is a text.

## Main definitions

- `Environment`: variables
- `settingOf?`: the path and the value of a variable
- `Settings.load`: settings from a text and an environment
-/

namespace TelemetryGateway.Settings

open TelemetryGateway.Number (Double.read?)
open TelemetryGateway.Text
open TelemetryGateway.Yaml (Node document?)

/-- Variables with their values. -/
abbrev Environment := List (String × String)

def Environment.get? (env : Environment) (name : String) : Option String :=
  env.lookup name

/-- The name and the value of an entry, with an equals sign between them. -/
def variableOf? (entry : List Char) : Option (String × String) :=
  match entry.dropWhile (· != '=') with
  | [] => none
  | _ :: value => some (String.ofList (entry.takeWhile (· != '=')), String.ofList value)

/-- The variables of a text of entries, each with a zero character behind it. -/
def Environment.ofText (text : String) : Environment :=
  (text.toList.splitOn (Char.ofNat 0)).filterMap variableOf?

/-- The start of the names of variables that hold settings, in small letters. -/
def variableStart : List Char := "telegate__".toList

/-- Two underscores become a dot. -/
def dotted : List Char → List Char
  | '_' :: '_' :: cs => '.' :: dotted cs
  | c :: cs => c :: dotted cs
  | [] => []

/-- The small letter of a letter: of an ASCII letter, and of the Kelvin sign, which is a `k` too. -/
def smallLetter (c : Char) : Char :=
  if c = '\u212a' then 'k' else c.toLower

/-- The names of the settings that are lists. -/
def listNames : List String :=
  ["allowed_origins", "allowed_methods", "allowed_headers"].map ("server.cors." ++ ·)

def splitCommas (s : String) : List String :=
  (s.toList.splitOn ',').map String.ofList

/-- The value that the text of a variable has for the setting of a name. -/
def valueOf (name : String) (text : String) : Node :=
  let word := lowercase text
  if word = "true" then .bool true
  else if word = "false" then .bool false
  else
    match Integer.signed? Integer.minInt64 Integer.maxInt64 text.toList with
    | some n => .int n
    | none =>
      match Double.read? text with
      | some x => .real x
      | none =>
        if listNames.contains name then .list ((splitCommas text).map .text) else .text text

/-- The path and the value of a variable, if it holds a setting. -/
def settingOf? (entry : String × String) : Option (Path × Node) :=
  let name := entry.1.toList.map smallLetter
  if variableStart.isPrefixOf name then
    let name := dotted (name.drop variableStart.length)
    some (Path.ofName name, valueOf (String.ofList name) entry.2)
  else none

/-- A tree in which settings are set one after the other. -/
def overlay? (settings : List (Path × Node)) (tree : Node) : Option Node :=
  settings.foldlM (fun tree s => s.1.set? s.2 tree) tree

/-- The settings at the top of a YAML text; a name there may spell a path. -/
def textEntries? (text : String) : Option (List (Path × Node)) :=
  match document? text with
  | some (.table entries) => some (entries.map fun e => (Path.ofName e.1.toList, e.2))
  | _ => none

/-- Why settings cannot be loaded. -/
inductive LoadFlaw where
  /-- The text is no YAML table, or a setting has no value of its type. -/
  | unreadable
  /-- A list would be longer than can be held. -/
  | boundless
deriving DecidableEq

/-- The settings of a YAML text and an environment. -/
def load (text : String) (env : Environment) : Except LoadFlaw Settings :=
  match textEntries? text with
  | none => .error .unreadable
  | some entries =>
    match overlay? (entries ++ env.filterMap settingOf?) (.table []) with
    | none => .error .boundless
    | some tree =>
      match ofNode? lenient tree with
      | some s => .ok s
      | none => .error .unreadable

end TelemetryGateway.Settings
