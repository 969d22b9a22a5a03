import TelemetryGateway.Json.Reader
import TelemetryGateway.Telemetry.Packet
import TelemetryGateway.Telemetry.Form.Fault
import TelemetryGateway.Text.Base64
import TelemetryGateway.Text.Blank

/-!
# Kinds of fields in JSON

How a JSON value becomes the value of a field. A message is an object whose members have the names of
its fields, in snake case or in lower camel case, or an array of the fields in their order. Members and
items are taken in the order of the text, and the first fault counts.

## Main definitions

- `Form`: the fields of a message by name
- `Form.read`: a message from a JSON value
- `Form.text`, `Form.term`, `Form.int64`, …: the kinds of fields
-/

namespace TelemetryGateway.Telemetry.Form

open TelemetryGateway.Json
open TelemetryGateway.Number (Single)
open TelemetryGateway.Text

/-- What becomes of a JSON value, or why nothing does. -/
abbrev Read (α : Type) := Tree → Except Fault α

/-- A field of a message. -/
structure Slot (σ : Type) where
  /-- The name in snake case. -/
  name : String
  /-- The change that a value makes. -/
  read : Read (σ → σ)

/-- The field of a name and a kind, with its place in the message. -/
def Slot.of {σ α : Type} (name : String) (kind : Read α) (set : α → σ → σ) : Slot σ where
  name := name
  read t := (kind t).map set

/-- Underscores left out, and the letter behind each one made a capital. -/
def camelChars : List Char → List Char
  | '_' :: c :: rest => c.toUpper :: camelChars rest
  | c :: rest => c :: camelChars rest
  | [] => []

/-- The lower camel case of a name in snake case. -/
def camelCase (name : String) : String :=
  String.ofList (camelChars name.toList)

/-- Both spellings of a name. -/
def Slot.spells {σ : Type} (slot : Slot σ) (name : String) : Bool :=
  slot.name == name || camelCase slot.name == name

/-- The fields of a message, in their order. -/
abbrev Schema (σ : Type) := List (Slot σ)

/-- A message in the making, with the names of the fields already given. -/
abbrev Draft (σ : Type) := List String × σ

/-- One more member. -/
def readMember {σ : Type} (schema : Schema σ) (draft : Draft σ) (m : Member) :
    Except Fault (Draft σ) :=
  match m.1 with
  | none => .error .form
  | some name =>
    match schema.find? (·.spells name) with
    -- Names of no field are skipped
    | none => .ok draft
    | some slot =>
      -- Both spellings of a name count as one field, which is given at most once
      if slot.name ∈ draft.1 then .error .form
      else (slot.read m.2).map fun change => (slot.name :: draft.1, change draft.2)

/-- One more item: the value of the next field. -/
def readItem {σ : Type} (draft : Schema σ × σ) (t : Tree) : Except Fault (Schema σ × σ) :=
  match draft.1 with
  | [] => .error .form
  | slot :: slots => (slot.read t).map fun change => (slots, change draft.2)

def message {σ : Type} [Inhabited σ] (schema : Schema σ) : Read σ
  -- What no member says keeps its default, and a shorter list leaves the last fields alone
  | .object members => (members.foldlM (readMember schema) ([], default)).map (·.2)
  | .array items => (items.foldlM readItem (schema, default)).map (·.2)
  | _ => .error .form

/-- A value that may be absent, which `null` says. -/
def optional {α : Type} (kind : Read α) : Read (Option α)
  | .null => .ok none
  | t => (kind t).map some

def list {α : Type} (kind : Read α) : Read (List α)
  | .array items => items.mapM kind
  | _ => .error .form

def text : Read String
  | .string s => .ok s
  | _ => .error .form

def flag : Read Bool
  | .bool b => .ok b
  | _ => .error .form

/-- A byte string in base64; `null` is the empty one. -/
def bytes : Read (List UInt8)
  | .null => .ok []
  | .string s =>
    match Base64.decode s with
    | some b => .ok b
    | none => .error .form
  | _ => .error .form

def uint32 : Read UInt32
  | .number n =>
    match n.int? with
    | some v => if 0 ≤ v ∧ v < 0x100000000 then .ok (UInt32.ofNat v.toNat) else .error .form
    | none => .error .form
  | _ => .error .form

/-- A term of a vocabulary: a code, or a name. -/
def term (v : Vocabulary) : Read (Term v)
  | .number n =>
    match n.int? with
    | some code =>
      if -0x80000000 ≤ code ∧ code < 0x80000000 then .ok ⟨Int32.ofInt code⟩ else .error .form
    | none => .error .form
  | .string s =>
    match Term.ofName? v s with
    | some t => .ok t
    | none => .error (.unknownName v.noun s)
  | _ => .error .form

/-- An integer of sixty-four bits: a number, a text that spells one between blanks, or `null` for
zero. -/
def int64 : Read Int64
  | .null => .ok 0
  | .number n =>
    match n.int? with
    | some v => if v ≤ Integer.maxInt64 then .ok (Int64.ofInt v) else .error .form
    | none => .error .form
  | .string s =>
    match Integer.signed? Integer.minInt64 Integer.maxInt64 (trimChars s.toList) with
    | some v => .ok (Int64.ofInt v)
    | none => .error (.badInteger .int64 s)
  | _ => .error .form

/-- A natural number of sixty-four bits: a number, a text that spells one between blanks, or `null` for
zero. -/
def uint64 : Read UInt64
  | .null => .ok 0
  | .number n =>
    match n.int? with
    | some v => if 0 ≤ v then .ok (UInt64.ofNat v.toNat) else .error .form
    | none => .error .form
  | .string s =>
    match Integer.unsigned? Integer.maxUInt64 (trimChars s.toList) with
    | some v => .ok (UInt64.ofNat v)
    | none => .error (.badInteger .uint64 s)
  | _ => .error .form

/-- A single-precision number: any number whose value as a double is finite. -/
def single : Read Single
  | .number n =>
    match n.quantity? with
    | some q => .ok q.toSingle
    | none => .error .form
  | _ => .error .form

/-- One entry of a map. -/
def readEntry (entries : Attributes) (m : Member) : Except Fault Attributes :=
  match m with
  | (some key, .string value) => .ok (entries.insert key value)
  | _ => .error .form

/-- A map from texts to texts. -/
def attributes : Read Attributes
  | .object members => members.foldlM readEntry .empty
  | _ => .error .form

end TelemetryGateway.Telemetry.Form
