import TelemetryGateway.Log.Event
import TelemetryGateway.Settings.Basic
import TelemetryGateway.Text.Hex

/-!
# Written records

A record as a line, in one of two encodings: an object in JSON, or a line for people. Lines carry no
time, which whoever collects them adds. What is said in a line for people cannot steer the terminal that
shows it.

## Main definitions

- `Record.toJson`: the object of a record
- `Record.consoleText`: the line for people
- `Record.line`: the line in an encoding
-/

namespace TelemetryGateway.Log

open TelemetryGateway.Json (Value)
open TelemetryGateway.Settings (Encoding)
open TelemetryGateway.Text (Hex.padded quoted)

/-- A terminal takes the character for a command. -/
def steersTerminal (c : Char) : Bool :=
  "\x07\x08\x0c\x1b\x7f".toList.contains c || (0x80 ≤ c.toNat && c.toNat ≤ 0x9f)

/-- A character in a line for people: a command is shown by its code. -/
def shownChar (c : Char) : List Char :=
  if steersTerminal c then
    if c.toNat < 0x80 then "\\x".toList ++ Hex.padded 2 c.toNat
    else "\\u\x7b".toList ++ Hex.padded 2 c.toNat ++ "\x7d".toList
  else [c]

/-- A sentence in a line for people. -/
def shownText (s : String) : String := String.ofList (s.toList.flatMap shownChar)

/-- A value in a line for people. -/
def fieldText : Value → String
  | .string s => quoted s
  | v => v.text

namespace Record

/-- The object of a record. -/
def toJson (r : Record) : Value :=
  .object
    [ ("level", .string r.level.name),
      ("fields", .object (("message", .string r.message) :: r.fields)),
      ("target", .string r.target) ]

/-- The line for people. -/
def consoleText (r : Record) : String :=
  r.level.name ++ " " ++ r.target ++ ": " ++
    " ".intercalate (shownText r.message :: r.fields.map fun f => f.1 ++ "=" ++ fieldText f.2)

/-- The line of a record in an encoding. -/
def line (encoding : Encoding) (r : Record) : String :=
  match encoding with
  | .json => r.toJson.text
  | .console => r.consoleText

end Record

end TelemetryGateway.Log
