import TelemetryGateway.Text.Blank
import TelemetryGateway.Text.Integer

/-!
# Spans of time in words

How long a health check waits, as people write it: numbers with units, one after the other. A number may
have places after a point, if they make whole nanoseconds, or whole seconds for hours and longer units.
Blanks may stand between digits, between a number and its unit, and behind a unit.

## Main definitions

- `TimeUnit`: a unit of time
- `Span.read?`: the span that a text spells
- `timeout?`: how long a health check waits
-/

namespace TelemetryGateway.Health

open TelemetryGateway.Text

def nanosPerSecond : Nat := 1000000000

/-- A count of seconds or of nanoseconds. -/
inductive Grain where
  | seconds
  | nanos
deriving DecidableEq, Repr

structure TimeUnit where
  names : List String
  /-- How much the unit is, in which grain. -/
  amount : Nat
  grain : Grain
  /-- How much the unit is for the places after a point, in which grain; some units have none. -/
  parts : Option (Nat × Grain)

/-- A unit with the same grain before and after the point. -/
def TimeUnit.even (names : List String) (amount : Nat) (grain : Grain) : TimeUnit :=
  ⟨names, amount, grain, some (amount, grain)⟩

/-- All units. -/
def timeUnits : List TimeUnit :=
  [ ⟨["nanos", "nsec", "ns"], 1, .nanos, none⟩,
    .even ["usec", "us", "\u00b5s"] 1000 .nanos,
    .even ["millis", "msec", "ms"] 1000000 .nanos,
    ⟨["seconds", "second", "secs", "sec", "s"], 1, .seconds, some (nanosPerSecond, .nanos)⟩,
    ⟨["minutes", "minute", "min", "mins", "m"], 60, .seconds, some (60 * nanosPerSecond, .nanos)⟩,
    .even ["hours", "hour", "hr", "hrs", "h"] 3600 .seconds,
    .even ["days", "day", "d"] 86400 .seconds,
    .even ["weeks", "week", "wk", "wks", "w"] (7 * 86400) .seconds,
    -- A twelfth of a year of 365.25 days, to a hundredth of a day
    .even ["months", "month", "M"] 2630016 .seconds,
    .even ["years", "year", "yr", "yrs", "y"] 31557600 .seconds ]

def unitOf? (name : String) : Option TimeUnit :=
  timeUnits.find? fun u => u.names.contains name

/-- A span of time: seconds and, while it is being read, at most a thousand million nanoseconds, of which
there are fewer in the end. -/
structure Span where
  seconds : Nat
  nanos : Nat
deriving DecidableEq, Repr

/-- A natural number that fits sixty-four bits. -/
def fitting? (n : Nat) : Option Nat :=
  if n ≤ Integer.maxUInt64 then some n else none

namespace Span

/-- The span of so many nanoseconds. -/
def totalNanos (s : Span) : Nat := s.seconds * nanosPerSecond + s.nanos

/-- A span with more time; every count on the way fits sixty-four bits. -/
def add? (s : Span) (amount : Nat) (grain : Grain) : Option Span := do
  let (seconds, nanos) : Nat × Nat := match grain with
    | .seconds => (amount, 0)
    | .nanos => (0, amount)
  let nanos ← fitting? (s.nanos + nanos)
  -- Exactly a thousand million nanoseconds stay where they are until the end
  let carried := if nanosPerSecond < nanos then nanos / nanosPerSecond else 0
  let seconds ← fitting? (s.seconds + seconds + carried)
  some ⟨seconds, nanos - carried * nanosPerSecond⟩

/-- A span in which all whole seconds are counted as such, if they can be counted. -/
def settled? (s : Span) : Option Span :=
  (fitting? (s.seconds + s.nanos / nanosPerSecond)).map fun seconds => ⟨seconds, s.nanos % nanosPerSecond⟩

/-- The places after a point, as a fraction. -/
structure Places where
  numerator : Nat := 0
  denominator : Nat := 1

/-- A span with so many units more, and places of one. -/
def addUnits? (s : Span) (n : Nat) (places : Option Places) (name : List Char) : Option Span := do
  let u ← unitOf? (String.ofList name)
  let s ← s.add? (← fitting? (n * u.amount)) u.grain
  match places with
  | none => some s
  | some p =>
    let (amount, grain) ← u.parts
    let scaled ← fitting? (p.numerator * amount)
    -- Places that are finer than the grain make no span
    if scaled % p.denominator = 0 then s.add? (scaled / p.denominator) grain else none

/-- What is being read. -/
inductive Phase where
  /-- Nothing yet, or a blank behind a unit. -/
  | between
  /-- A number before its point. -/
  | number (n : Nat)
  /-- A number behind its point. -/
  | places (n : Nat) (p : Places)
  /-- A unit, backwards. -/
  | unit (n : Nat) (p : Option Places) (name : List Char)

def isUnitChar (c : Char) : Bool := c.isAlpha || c.toNat = 0xB5

/-- A number with one digit more. -/
def moreDigits? (n : Nat) (c : Char) : Option Nat :=
  (Integer.digit? c).bind fun d => fitting? (10 * n + d)

/-- The span of a text from a phase on. -/
def readFrom? (s : Span) : Phase → List Char → Option Span
  | .between, [] => some s
  | .unit n p name, [] => s.addUnits? n p name.reverse
  | _, [] => none
  | .between, c :: cs =>
    if isBlank c then readFrom? s .between cs
    else
      match Integer.digit? c with
      | some d => readFrom? s (.number d) cs
      | none => none
  | .number n, c :: cs =>
    if isBlank c then readFrom? s (.number n) cs
    else if c = '.' then readFrom? s (.places n {}) cs
    else if isUnitChar c then readFrom? s (.unit n none [c]) cs
    else
      match moreDigits? n c with
      | some n => readFrom? s (.number n) cs
      | none => none
  | .places n p, c :: cs =>
    if isBlank c then readFrom? s (.places n p) cs
    else if isUnitChar c then
      if p.denominator = 1 then none else readFrom? s (.unit n (some p) [c]) cs
    else
      match moreDigits? p.numerator c, fitting? (10 * p.denominator) with
      | some numerator, some denominator => readFrom? s (.places n ⟨numerator, denominator⟩) cs
      | _, _ => none
  | .unit n p name, c :: cs =>
    if isUnitChar c then readFrom? s (.unit n p (c :: name)) cs
    else
      match s.addUnits? n p name.reverse with
      | none => none
      | some s =>
        if isBlank c then readFrom? s .between cs
        else
          match Integer.digit? c with
          | some d => readFrom? s (.number d) cs
          | none => none

/-- The span that a text spells, before it is settled. -/
def read? (s : String) : Option Span :=
  readFrom? ⟨0, 0⟩ .between s.toList

end Span

/-- How long a health check waits where nothing else is said. -/
def defaultTimeout : Span := ⟨2, 0⟩

/-- How long a health check waits: the span that a text spells between blanks, if it is more than
nothing. A span cannot be waited for if only its last nanosecond makes more seconds than can be
counted. -/
def timeout? (text : Option String) : Option Span :=
  match text.bind fun s => Span.read? (trim s) with
  | some s => s.settled?.map fun s => if s = ⟨0, 0⟩ then defaultTimeout else s
  | none => some defaultTimeout

end TelemetryGateway.Health
