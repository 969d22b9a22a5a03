import TelemetryGateway.Yaml.Value

/-!
# Trees of YAML values

The values of a YAML text in which names are texts. Numbers and truth values are names as they are
written out; a table with any other name is none.

## Main definitions

- `Node`: a tree
- `Value.node?`: a value as a tree
-/

namespace TelemetryGateway.Yaml

open TelemetryGateway.Number (Double)

/-- A tree of values. -/
inductive Node where
  | null
  | bool (b : Bool)
  | int (n : Int)
  | real (x : Double)
  | text (s : String)
  | list (items : List Node)
  | table (entries : List (String × Node))
deriving Inhabited

/-- A list of entries in which one is set. -/
def setEntry (name : String) (v : Node) : List (String × Node) → List (String × Node)
  | [] => [(name, v)]
  | (n, w) :: rest => if n = name then (n, v) :: rest else (n, w) :: setEntry name v rest

def Node.entries : Node → List (String × Node)
  | .table entries => entries
  | _ => []

namespace Value

def name? : Value → Option String
  | .bool b => some (if b then "true" else "false")
  | .int n => some (toString n)
  | .real s => some s
  | .text s => some s
  | _ => none

mutual

/-- A value as a tree; a void is a null. -/
def node? : Value → Option Node
  | .void => some .null
  | .null => some .null
  | .bool b => some (.bool b)
  | .int n => some (.int n)
  | .real s => (Double.read? s).map .real
  | .text s => some (.text s)
  | .list items => (nodes? items).map .list
  | .table entries => (namedNodes? [] entries).map .table

def nodes? : List Value → Option (List Node)
  | [] => some []
  | v :: vs =>
    match node? v, nodes? vs with
    | some n, some ns => some (n :: ns)
    | _, _ => none

/-- The entries of a table as trees, behind those that are given. Of two names with the same text, the
last one counts. -/
def namedNodes? (given : List (String × Node)) :
    List (Value × Value) → Option (List (String × Node))
  | [] => some given
  | (k, v) :: rest =>
    match name? k, node? v with
    | some name, some n => namedNodes? (setEntry name n given) rest
    | _, _ => none

end

end Value

end TelemetryGateway.Yaml
