import TelemetryGateway.Text.Integer
import TelemetryGateway.Yaml.Cursor
import TelemetryGateway.Yaml.Node

/-!
# Paths to settings

A name may spell a path: names of table entries with dots between them, each perhaps with places in lists
behind it, such as `server.cors.allowed_origins[0]`. A place below zero counts from the end of its list.
To set a value at a path is to make whatever stands on the way into a table or a list where it is none,
and into a list that is long enough. A table that is set is merged into the one that it meets.

## Main definitions

- `Path`, `Path.ofName`: a path, and the one that a name spells
- `setName`, `merge`: a tree with one entry more, and with all entries of another one
- `Path.set?`: a tree in which the value at a path is set
-/

namespace TelemetryGateway.Settings

open TelemetryGateway.Text (Integer.signed? Integer.minInt64 Integer.maxInt64)
open TelemetryGateway.Yaml (Node isSpace setEntry)

/-- A step from a value into it. -/
inductive PathStep where
  | name (s : String)
  | place (i : Int)
deriving DecidableEq, Repr

abbrev Path := List PathStep

/-! ## Spelling -/

/-- A character of a name in a path. -/
def isPathChar (c : Char) : Bool :=
  c.isAlphanum || c = '_' || c = '-'

/-- The place between brackets: digits, perhaps with a minus sign before and blanks around them. -/
def placeOf? (cs : List Char) : Option Int :=
  let number := ((cs.dropWhile isSpace).reverse.dropWhile isSpace).reverse
  if number.head? = some '+' then none
  else Integer.signed? Integer.minInt64 Integer.maxInt64 number

/-- The name at the front, if there is one, and what follows it. -/
def nameOf? (cs : List Char) : Option (String × List Char) :=
  match cs.takeWhile isPathChar with
  | [] => none
  | name => some (String.ofList name, cs.dropWhile isPathChar)

/-- The steps behind the first name of a path. Only so many are read as `fuel` says. -/
def stepsOf? : Nat → List Char → Option Path
  | _, [] => some []
  | 0, _ => none
  | fuel + 1, '.' :: cs =>
    match nameOf? cs with
    | some (name, rest) => (stepsOf? fuel rest).map (.name name :: ·)
    | none => none
  | fuel + 1, '[' :: cs =>
    match cs.dropWhile (· != ']') with
    | [] => none
    | _ :: rest =>
      match placeOf? (cs.takeWhile (· != ']')), stepsOf? fuel rest with
      | some i, some path => some (.place i :: path)
      | _, _ => none
  | _, _ => none

/-- The path that a name spells; a name that spells none is the name of an entry at the top. -/
def Path.ofName (name : List Char) : Path :=
  let path? : Option Path := match nameOf? name with
    | some (first, rest) => (stepsOf? rest.length rest).map (.name first :: ·)
    | none => none
  path?.getD [.name (String.ofList name)]

/-! ## Setting -/

mutual

/-- A tree with an entry of a name. What is no table becomes one. -/
def setName (name : String) (tree : Node) : Node → Node
  -- A table is merged into the value of the entry, and any other value takes its place
  | .table entries =>
    let old := (tree.entries.lookup name).getD (.table [])
    .table (setEntry name (merge old entries) tree.entries)
  | v => .table (setEntry name v tree.entries)

/-- A tree into which all entries of a table are set. -/
def merge (tree : Node) : List (String × Node) → Node
  | [] => tree
  | (name, v) :: entries => merge (setName name tree v) entries

end

def itemsOf : Node → List Node
  | .list items => items
  | _ => []

/-- The items that a place in front of a list of some length lacks. -/
def lacking (length : Nat) (i : Int) : Nat := (-(i + length)).toNat

/-- Where a place is in a list of some length, once the items in front that it lacks are there. -/
def indexOf (length : Nat) (i : Int) : Nat :=
  if 0 ≤ i then i.toNat else (i + length).toNat

/-- The length of a list that can be held. -/
def maxListLength : Nat := 0x1000000

/-- The items of a list that reaches to a place, if it can be held. -/
def reach? (items : List Node) (i : Int) : Option (List Node) :=
  -- New items are empty, in front of the list or behind it
  let front := lacking items.length i
  let behind := indexOf items.length i + 1 - (front + items.length)
  if front + items.length + behind ≤ maxListLength then
    some (List.replicate front .null ++ items ++ List.replicate behind .null)
  else none

/-- A tree in which the value at a path is set, if its lists can be held. -/
def Path.set? (v : Node) : Path → Node → Option Node
  | [], _ => some v
  | [.name name], tree => some (setName name tree v)
  | .name name :: path, tree =>
    (Path.set? v path ((tree.entries.lookup name).getD .null)).map fun w =>
      .table (setEntry name w tree.entries)
  | .place i :: path, tree =>
    let index := indexOf (itemsOf tree).length i
    match reach? (itemsOf tree) i with
    | some items => (Path.set? v path (items.getD index .null)).map fun w => .list (items.set index w)
    | none => none

end TelemetryGateway.Settings
