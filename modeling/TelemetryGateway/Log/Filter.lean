import TelemetryGateway.Log.Event
import TelemetryGateway.Text.Alphanumeric
import TelemetryGateway.Text.Blank
import TelemetryGateway.Text.Letters

/-!
# Log filters

How grave a record has to be to be written. A filter is a list of directives, each for the parts of the
program whose names start with a certain text, or for everything, and perhaps only for records with certain
fields, or within spans, of which the program has none. Of those that speak of a record, the one with the
longest text counts, then the one with the most fields, and of equals the last.

## Main definitions

- `Threshold`: how grave a record has to be, with `Threshold.ofText?`
- `Directive`: a threshold for some records
- `Directive.read`: the directive of a text, or why there is none
- `Filter.ofTexts?`: the filter of a list of directives, some of which may be none
- `Filter.passes`: a record is written
- `LevelFlaw`, `thresholdOf`: the threshold of a setting, or why it is none
-/

namespace TelemetryGateway.Log

open TelemetryGateway.Text

/-- How grave a record has to be to be written. -/
inductive Threshold where
  | off
  | upTo (level : Level)
deriving DecidableEq, Repr

namespace Threshold

def text : Threshold → String
  | .off => "off"
  | .upTo level => lowercase level.name

/-- All thresholds, each at the place of its number. -/
def all : List Threshold :=
  [.off, .upTo .error, .upTo .warn, .upTo .info, .upTo .debug, .upTo .trace]

/-- A record of a level is grave enough. -/
def passes : Threshold → Level → Bool
  | .off, _ => false
  | .upTo bound, level => bound.gravity ≤ level.gravity

/-- The threshold that a text names, by a number from zero to five or by its name in letters of any
case. -/
def ofText? (s : String) : Option Threshold :=
  match Integer.unsigned? Integer.maxUInt64 s.toList with
  -- A number that is too great names no threshold
  | some n => all[n]?
  | none => all.find? fun t => t.text == lowercase s

end Threshold

/-- A setting names no threshold. -/
structure LevelFlaw where
  setting : String
deriving DecidableEq, Repr

def LevelFlaw.message (f : LevelFlaw) : String :=
  "invalid log level: " ++ quoted f.setting

/-- The threshold that a setting names between blanks. -/
def thresholdOf (setting : String) : Except LevelFlaw Threshold :=
  match Threshold.ofText? (trim setting) with
  | some t => .ok t
  | none => .error ⟨setting⟩

/-- A threshold for some records. -/
structure Directive where
  /-- What the names of the parts of the program start with; everything, if it is missing. -/
  target : Option String := none
  /-- The names of fields that a record has to have. -/
  fields : List String := []
  /-- Only records within certain spans are meant. -/
  inSpan : Bool := false
  threshold : Threshold := .upTo .trace
deriving DecidableEq, Repr

/-- Why a text is no directive. -/
inductive Misreading where
  /-- It is not written like one, and does not count. -/
  | ignored
  /-- It has to be cut inside a character, which cannot be done. -/
  | broken
deriving DecidableEq, Repr

/-! ## Cutting -/

/-- What is left of a text behind a count of bytes, which do not end inside a character. -/
def dropBytes? : Nat → List Char → Option (List Char)
  | 0, cs => some cs
  | _ + 1, [] => none
  | n + 1, c :: cs => if c.utf8Size ≤ n + 1 then dropBytes? (n + 1 - c.utf8Size) cs else none

/-- The start of a text up to a count of bytes, which do not end inside a character. -/
def takeBytes? : Nat → List Char → Option (List Char)
  | 0, _ => some []
  | _ + 1, [] => none
  | n + 1, c :: cs =>
    if c.utf8Size ≤ n + 1 then (takeBytes? (n + 1 - c.utf8Size) cs).map (c :: ·) else none

/-- The part of a text from a count of bytes to another one. -/
def cut (cs : List Char) (start stop : Nat) : Except Misreading (List Char) :=
  match (dropBytes? start cs).bind (takeBytes? (stop - start)) with
  | some part => .ok part
  | none => .error .broken

/-- The part of a text from a count of bytes on. -/
def cutFrom (cs : List Char) (start : Nat) : Except Misreading (List Char) :=
  match dropBytes? start cs with
  | some part => .ok part
  | none => .error .broken

namespace Directive

/-! ## Reading -/

/-- What is being read of a directive, and the count of bytes before it. -/
inductive Phase where
  | start
  /-- A threshold for all parts, or the text of some of them. -/
  | word
  | span (start : Nat)
  | field (start : Nat)
  /-- What follows the fields. -/
  | afterFields
  /-- What follows the part. -/
  | afterTarget
  | threshold (start : Nat)

/-- A character that a directive may start with. -/
def isStart (c : Char) : Bool :=
  isAlphanumeric c || c = '-' || c = ':' || c = '_'

/-- The directive of a threshold, which may be left out for the lowest one. -/
def withThreshold (d : Directive) (text : List Char) : Except Misreading Directive :=
  if text = [] then .ok d
  else
    match Threshold.ofText? (String.ofList text) with
    | some t => .ok { d with threshold := t }
    | none => .error .ignored

/-- The directive with one field more. -/
def withField (d : Directive) (text : List Char) : Except Misreading Directive :=
  if text = [] then .error .ignored
  else
    let name := String.ofList (text.takeWhile (· != '='))
    -- Only spans have fields with values
    .ok { d with fields := d.fields ++ [name], inSpan := d.inSpan || text.contains '=' }

/-- The directive that a word alone is: a threshold for all parts, or some parts of which everything is
written. -/
def ofWord (word : String) : Directive :=
  match Threshold.ofText? word with
  | some t => { threshold := t }
  | none => { target := some word }

/-- The directive of a text from a phase on. The characters are read without the blanks around the text,
and its parts are cut out of it by the count of bytes before them, as if there were no blanks in
front. -/
def readFrom (whole : List Char) (d : Directive) (offset : Nat) :
    Phase → List Char → Except Misreading Directive
  -- A word alone is taken as a whole, blanks included
  | .word, [] => .ok (ofWord (String.ofList whole))
  | .threshold start, [] => do d.withThreshold (← cutFrom whole start)
  | .afterTarget, [] => .ok d
  | _, [] => .error .ignored
  | .start, c :: cs =>
    if c = '[' then readFrom whole d (offset + 1) (.span (offset + 1)) cs
    else if isStart c then readFrom whole d (offset + c.utf8Size) .word cs
    else .error .ignored
  | .word, c :: cs =>
    if c = '=' ∨ c = '[' then
      match cut whole 0 offset with
      | .error e => .error e
      | .ok target =>
        let d := { d with target := some (String.ofList target) }
        let phase := if c = '=' then Phase.threshold (offset + 1) else .span (offset + 1)
        readFrom whole d (offset + 1) phase cs
    else readFrom whole d (offset + c.utf8Size) .word cs
  | .span start, c :: cs =>
    if c = ']' then
      match cut whole start offset with
      | .error e => .error e
      | .ok _ => readFrom whole { d with inSpan := true } (offset + 1) .afterTarget cs
    else if c.toNat = 0x7B then
      match cut whole start offset with
      | .error e => .error e
      | .ok name =>
        let d := { d with inSpan := d.inSpan || name ≠ [] }
        readFrom whole d (offset + 1) (.field (offset + 1)) cs
    else readFrom whole d (offset + c.utf8Size) (.span start) cs
  | .field start, c :: cs =>
    if c.toNat = 0x7D then
      match (cut whole start offset).bind d.withField with
      | .error e => .error e
      | .ok d => readFrom whole d (offset + 1) .afterFields cs
    else readFrom whole d (offset + c.utf8Size) (.field start) cs
  | .afterFields, c :: cs =>
    if c = ']' then readFrom whole d (offset + 1) .afterTarget cs else .error .ignored
  | .afterTarget, c :: cs =>
    if c = '=' then readFrom whole d (offset + 1) (.threshold (offset + 1)) cs else .error .ignored
  | .threshold start, c :: cs => readFrom whole d (offset + c.utf8Size) (.threshold start) cs

def read (text : List Char) : Except Misreading Directive :=
  readFrom text {} 0 .start (trimChars text)

/-! ## Meaning -/

/-- The directive speaks of the part of the program whose record this is. -/
def coversPart (d : Directive) (r : Record) : Bool :=
  match d.target with
  | none => true
  -- The program as a whole is no part
  | some target => r.target ≠ programTarget && target.toList.isPrefixOf r.target.toList

def covers (d : Directive) (r : Record) : Bool :=
  !d.inSpan && d.coversPart r &&
    d.fields.all fun f => ("message" :: r.fields.map (·.1)).contains f

/-- How long the text of the parts is: more than nothing for all parts. -/
def weight (d : Directive) : Nat :=
  match d.target with
  | none => 0
  | some target => target.utf8ByteSize + 1

/-- A list of names is not behind another one. -/
def notAfter : List String → List String → Bool
  | [], _ => true
  | _ :: _, [] => false
  | a :: as, b :: bs => a < b || (a == b && notAfter as bs)

/-- For one record, the directive `b` says no less than the directive `a`. -/
def yields (a b : Directive) : Bool :=
  if a.weight ≠ b.weight then a.weight < b.weight
  else if a.fields.length ≠ b.fields.length then a.fields.length < b.fields.length
  else notAfter a.fields b.fields

end Directive

abbrev Filter := List Directive

namespace Filter

/-- The better of two directives for one record: the one that says more, and the later of equals. -/
def better (best : Option Directive) (d : Directive) : Option Directive :=
  match best with
  | none => some d
  | some b => if b.yields d then some d else some b

/-- The directive that counts for a record, if any speaks of it. -/
def governing (f : Filter) (r : Record) : Option Directive :=
  (f.filter (·.covers r)).foldl better none

def passes (f : Filter) (r : Record) : Bool :=
  match f.governing r with
  | some d => d.threshold.passes r.level
  | none => false

/-- The directives among texts, unless a text cannot be cut. -/
def readAll? : List (List Char) → Option Filter
  | [] => some []
  | text :: rest =>
    match Directive.read text with
    | .ok d => (readAll? rest).map (d :: ·)
    -- A text that is no directive does not count, but one that cannot be cut ends it all
    | .error .ignored => readAll? rest
    | .error .broken => none

/-- The filter of a threshold and of a text with directives between commas, which take its place if there
are any. -/
def ofTexts? (threshold : Threshold) (text : Option String) : Option Filter :=
  match readAll? ((text.getD "").toList.splitOn ',') with
  | some [] => some [{ threshold := threshold }]
  | some ds => some ds
  | none => none

end Filter

end TelemetryGateway.Log
