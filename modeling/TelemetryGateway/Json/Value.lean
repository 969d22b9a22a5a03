import TelemetryGateway.Number.Real

/-!
# JSON values and their text

Values that the gateway writes: answers, documents and log fields. Floating-point numbers are kept as
bit patterns, so that equal values are equal texts; one that is not finite is written as `null`.

## Main definitions

- `Value`: a JSON value to be written
- `Value.text`: its text without blanks
- `Value.sorted`: the value with the members of every object in the order of their names
-/

namespace TelemetryGateway.Json

open TelemetryGateway.Number

/-- A JSON value to be written. -/
inductive Value where
  | null
  | bool (b : Bool)
  | int (n : Int)
  | single (x : Single)
  /-- A double-precision number by its bits. -/
  | double (bits : UInt64)
  | string (s : String)
  | array (items : List Value)
  | object (members : List (String × Value))
deriving Inhabited, Repr, BEq

/-- The two hexadecimal digits of a control character. -/
def controlDigits (n : Nat) : List Char :=
  [Nat.digitChar (n / 16), Nat.digitChar (n % 16)]

/-- One character of a string. Quotes, backslashes and control characters are escaped, nothing
else is. -/
def escapeChar (c : Char) : List Char :=
  if c = '"' then ['\\', '"']
  else if c = '\\' then ['\\', '\\']
  else if 0x20 ≤ c.toNat then [c]
  else if c.toNat = 0x08 then ['\\', 'b']
  else if c.toNat = 0x09 then ['\\', 't']
  else if c.toNat = 0x0A then ['\\', 'n']
  else if c.toNat = 0x0C then ['\\', 'f']
  else if c.toNat = 0x0D then ['\\', 'r']
  else ['\\', 'u', '0', '0'] ++ controlDigits c.toNat

/-- A string with its quotes. -/
def quote (s : String) : List Char :=
  '"' :: s.toList.flatMap escapeChar ++ ['"']

/-- Parts with a comma between any two. -/
def separated : List (List Char) → List Char
  | [] => []
  | [p] => p
  | p :: ps => p ++ ',' :: separated ps

namespace Value

mutual

/-- The characters of a value. -/
def chars (v : Value) : List Char :=
  match v with
  | .null => "null".toList
  | .bool b => (if b then "true" else "false").toList
  | .int n => (toString n).toList
  | .single x => if x.finite then x.json.toList else "null".toList
  | .double bits => if Real.finite bits then (Real.json bits).toList else "null".toList
  | .string s => quote s
  | .array items => '[' :: separated (itemChars items) ++ [']']
  | .object members => '{' :: separated (memberChars members) ++ ['}']
termination_by structural v

def itemChars (items : List Value) : List (List Char) :=
  match items with
  | [] => []
  | v :: vs => chars v :: itemChars vs
termination_by structural items

def memberChars (members : List (String × Value)) : List (List Char) :=
  match members with
  | [] => []
  | m :: ms => nameChars m :: memberChars ms
termination_by structural members

def nameChars (member : String × Value) : List Char :=
  match member with
  | (name, v) => quote name ++ ':' :: chars v
termination_by structural member

end

/-- The text of a value, without blanks. -/
def text (v : Value) : String :=
  String.ofList v.chars

/-- A member goes behind those with smaller names; one with the same name is replaced. -/
def insertMember (name : String) (v : Value) : List (String × Value) → List (String × Value)
  | [] => [(name, v)]
  | (n, w) :: ms =>
    if name < n then (name, v) :: (n, w) :: ms
    else if name = n then (name, v) :: ms
    else (n, w) :: insertMember name v ms

/-- Members in the order of their names; of members with one name the last one stays. -/
def sortMembers (ms : List (String × Value)) : List (String × Value) :=
  ms.foldl (fun sorted m => insertMember m.1 m.2 sorted) []

mutual

/-- The value with the members of every object in the order of their names. -/
def sorted (v : Value) : Value :=
  match v with
  | .array items => .array (sortedItems items)
  | .object members => .object (sortMembers (sortedMembers members))
  | v => v
termination_by structural v

def sortedItems (items : List Value) : List Value :=
  match items with
  | [] => []
  | v :: vs => sorted v :: sortedItems vs
termination_by structural items

def sortedMembers (members : List (String × Value)) : List (String × Value) :=
  match members with
  | [] => []
  | m :: ms => sortedMember m :: sortedMembers ms
termination_by structural members

def sortedMember (member : String × Value) : String × Value :=
  match member with
  | (name, v) => (name, sorted v)
termination_by structural member

end

end Value

end TelemetryGateway.Json
