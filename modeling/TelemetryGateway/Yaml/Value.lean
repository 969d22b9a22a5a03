import TelemetryGateway.Number.Real
import TelemetryGateway.Text.Integer
import TelemetryGateway.Yaml.Tag

/-!
# YAML values

What a YAML text says. A scalar without quotes has the type that it looks like, unless a tag gives it
another one; what it cannot be read as is a void. Any value can be the name of an entry in a table, and no
name occurs twice.

## Main definitions

- `Value`: a value
- `Value.ofPlain`, `Value.ofTagged`: the values of scalars without quotes
- `Value.same`: whether two values are equal as names
- `Value.tableOf?`: a table from its names and values in turn
-/

namespace TelemetryGateway.Yaml

open TelemetryGateway.Number (Double.read?)
open TelemetryGateway.Text (Integer.int64In?)

/-- A value. -/
inductive Value where
  /-- No value, which is less than one of nothing. -/
  | void
  | null
  | bool (b : Bool)
  | int (n : Int)
  /-- A real number, as it is written. -/
  | real (text : String)
  | text (s : String)
  | list (items : List Value)
  | table (entries : List (Value × Value))
deriving Inhabited

namespace Value

/-! ## Scalars -/

/-- The integer that a scalar writes: in base sixteen behind `0x`, in base eight behind `0o`, and in
base ten otherwise. -/
def integer? (cs : List Char) : Option Int :=
  let special := match cs with
    | '0' :: 'x' :: rest => Integer.int64In? 16 rest
    | '0' :: 'o' :: rest => Integer.int64In? 8 rest
    | '+' :: rest => Integer.int64In? 10 rest
    | _ => none
  special.or (Integer.int64In? 10 cs)

/-- The scalars that stand for infinities and for no number. -/
def unbounded : List String :=
  [ ".inf", ".Inf", ".INF", "+.inf", "+.Inf", "+.INF", "-.inf", "-.Inf", "-.INF",
    ".nan", ".NaN", ".NAN" ]

/-- A scalar is a real number: it has a digit, or it is the word for an unbounded one. -/
def isReal (s : String) : Bool :=
  unbounded.contains s || (s.toList.any Char.isDigit && (Double.read? s).isSome)

/-- The value of a scalar without quotes. -/
def ofPlain (s : String) : Value :=
  if s = "" ∨ s = "~" ∨ s = "null" then .null
  else if s = "true" ∨ s = "True" ∨ s = "TRUE" then .bool true
  else if s = "false" ∨ s = "False" ∨ s = "FALSE" then .bool false
  else
    match integer? s.toList with
    | some n => .int n
    | none => if isReal s then .real s else .text s

/-- The value of a scalar without quotes behind a tag; it has to be written in full. -/
def ofTagged (t : Tag) (s : String) : Value :=
  if t.handle ≠ Tag.standard then .text s
  else if t.suffix = "bool" then
    if s = "true" then .bool true else if s = "false" then .bool false else .void
  else if t.suffix = "int" then ((Integer.int64In? 10 s.toList).map .int).getD .void
  else if t.suffix = "float" then if isReal s then .real s else .void
  else if t.suffix = "null" then if s = "~" ∨ s = "null" then .null else .void
  else .text s

def ofScalar (plain : Bool) (tag : Option Tag) (s : String) : Value :=
  if plain then
    match tag with
    | some t => ofTagged t s
    | none => ofPlain s
  else .text s

/-! ## Collections -/

mutual

/-- Two values are equal as names: real numbers are if they are written alike. -/
def same : Value → Value → Bool
  | .void, .void => true
  | .null, .null => true
  | .bool a, .bool b => a == b
  | .int m, .int n => m == n
  | .real s, .real t => s == t
  | .text s, .text t => s == t
  | .list xs, .list ys => sameItems xs ys
  | .table es, .table fs => sameEntries es fs
  | _, _ => false

def sameItems : List Value → List Value → Bool
  | [], [] => true
  | x :: xs, y :: ys => same x y && sameItems xs ys
  | _, _ => false

def sameEntries : List (Value × Value) → List (Value × Value) → Bool
  | [], [] => true
  | (a, x) :: es, (b, y) :: fs => same a b && same x y && sameEntries es fs
  | _, _ => false

end

def isVoid : Value → Bool
  | .void => true
  | _ => false

/-- Entries with those that follow as names and values in turn. A name without a value, which is not
`void`, is waiting as `name`; what stands where a void should be a name is taken for the name. -/
def entriesFrom? (entries : List (Value × Value)) (name : Value) :
    List Value → Option (List (Value × Value))
  | [] => some entries
  | v :: vs =>
    if name.isVoid then entriesFrom? entries v vs
    else if entries.any fun e => same e.1 name then none
    else entriesFrom? (entries ++ [(name, v)]) .void vs

/-- A table of names and values in turn, in which no name occurs twice. -/
def tableOf? (vs : List Value) : Option Value :=
  (entriesFrom? [] .void vs).map .table

end Value

end TelemetryGateway.Yaml
