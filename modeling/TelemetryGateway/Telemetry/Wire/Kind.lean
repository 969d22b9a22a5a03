import TelemetryGateway.Telemetry.Packet
import TelemetryGateway.Telemetry.Wire.Field
import TelemetryGateway.Text.Octets

/-!
# Kinds of fields

A kind says how the value of a field is written under a number, how many bytes that takes, and how one
more occurrence on the wire changes the value. A schema lists the fields of a message in the order in
which they are written. Values that a field has when it is not given are not written at all.

## Main definitions

- `Kind`: writing, counting and reading the values of a type
- `Slot`: a field of a message, with its number and kind
- `Schema`: the fields of a message; `Schema.write`, `Schema.size`, `Schema.merge`
-/

namespace TelemetryGateway.Telemetry.Wire

open TelemetryGateway.Number (Single)
open TelemetryGateway.Text (utf8 ofUtf8?)

/-- The bytes that the items of a list take together. -/
def totalSize {α : Type} (size : α → Nat) : List α → Nat
  | [] => 0
  | a :: rest => size a + totalSize size rest

/-- How values of a type stand on the wire. -/
structure Kind (α : Type) where
  /-- The bytes of all fields with this number that a value takes. -/
  write : Nat → α → List UInt8
  /-- The count of those bytes. -/
  size : Nat → α → Nat
  /-- The value after one more occurrence, where items may stand in fewer than so many groups. -/
  merge : Nat → Payload → α → Option α
  /-- An occurrence is read as bytes behind their count, whatever kind its key tells. -/
  byLength : Bool := false

/-- A field of a message. -/
structure Slot (σ : Type) where
  number : Nat
  write : σ → List UInt8
  size : σ → Nat
  merge : Nat → Payload → σ → Option σ
  byLength : Bool

/-- The field of a number and a kind, with its place in the message. -/
def Slot.of {σ α : Type} (number : Nat) (kind : Kind α) (get : σ → α) (set : α → σ → σ) : Slot σ where
  number := number
  write m := kind.write number (get m)
  size m := kind.size number (get m)
  merge depth payload m := (kind.merge depth payload (get m)).map fun v => set v m
  byLength := kind.byLength

/-- The fields of a message, in the order in which they are written. -/
abbrev Schema (σ : Type) := List (Slot σ)

namespace Schema

variable {σ : Type}

def write (schema : Schema σ) (m : σ) : List UInt8 :=
  schema.flatMap fun slot => slot.write m

def size (schema : Schema σ) (m : σ) : Nat :=
  totalSize (fun slot => slot.size m) schema

def slot? (schema : Schema σ) (number : Nat) : Option (Slot σ) :=
  schema.find? fun slot => slot.number == number

/-- Fields with this number are read by their length. -/
def byLength (schema : Schema σ) (number : Nat) : Bool :=
  (schema.slot? number).any (·.byLength)

/-- The message after one more field. -/
def mergeField (schema : Schema σ) (depth : Nat) (m : σ) (f : Field) : Option σ :=
  match schema.slot? f.number with
  | some slot => slot.merge depth f.payload m
  -- Skipped
  | none => some m

/-- The message after the fields of a byte string. -/
def merge (schema : Schema σ) (depth : Nat) (bs : List UInt8) (m : σ) : Option σ :=
  (Field.readAll schema.byLength depth bs).bind fun fields =>
    fields.foldlM (schema.mergeField depth) m

end Schema

def keySize (number kind : Nat) : Nat :=
  Varint.length (8 * number + kind)

/-- The count of bytes of a field that carries `length` bytes. -/
def bytesSize (number length : Nat) : Nat :=
  keySize number 2 + Varint.length length + length

namespace Kind

/-- An integer field, left out where the integer is zero. -/
def integer {α : Type} (toNat : α → Nat) (ofNat : Nat → α) : Kind α where
  write number v := if toNat v = 0 then [] else writeVarint number (toNat v)
  size number v := if toNat v = 0 then 0 else keySize number 0 + Varint.length (toNat v)
  merge _ payload _ :=
    match payload with
    | .varint n => some (ofNat n)
    | _ => none

/-- Natural numbers of thirty-two bits, the low bits of what is on the wire. -/
def uint32 : Kind UInt32 := integer UInt32.toNat UInt32.ofNat

def uint64 : Kind UInt64 := integer UInt64.toNat UInt64.ofNat

def int64 : Kind Int64 :=
  integer (fun n => n.toUInt64.toNat) fun n => (UInt64.ofNat n).toInt64

/-- Terms of a vocabulary: their codes, extended to sixty-four bits; the low thirty-two bits count. -/
def term (v : Vocabulary) : Kind (Term v) :=
  integer (fun t => t.code.toInt64.toUInt64.toNat) fun n => ⟨(UInt32.ofNat n).toInt32⟩

/-- Single-precision numbers, left out where they equal zero. -/
def single : Kind Single where
  write number x := if x.isZero then [] else writeKey number 5 ++ littleEndian x.bits
  size number x := if x.isZero then 0 else keySize number 5 + 4
  merge _ payload _ :=
    match payload with
    | .fixed32 content => (ofLittleEndian content).map Single.mk
    | _ => none

/-- Byte strings, left out where they are empty. -/
def bytes : Kind (List UInt8) where
  write number b := if b.isEmpty then [] else writeBytes number b
  size number b := if b.isEmpty then 0 else bytesSize number b.length
  merge _ payload _ :=
    match payload with
    | .bytes content => some content
    | _ => none

/-- Texts in UTF-8, left out where they are empty. -/
def text : Kind String where
  write number s := if s.isEmpty then [] else writeBytes number (utf8 s)
  size number s := if s.isEmpty then 0 else bytesSize number s.utf8ByteSize
  merge _ payload _ :=
    match payload with
    | .bytes content => ofUtf8? content
    | _ => none

/-- Texts that may be absent; an empty text is not absent. -/
def optionalText : Kind (Option String) where
  write number s :=
    match s with
    | some s => writeBytes number (utf8 s)
    | none => []
  size number s :=
    match s with
    | some s => bytesSize number s.utf8ByteSize
    | none => 0
  merge _ payload _ :=
    match payload with
    | .bytes content => (ofUtf8? content).map some
    | _ => none

/-- A message that may be absent. -/
def message {τ : Type} [Inhabited τ] (schema : Schema τ) : Kind (Option τ) where
  write number m :=
    match m with
    | some m => writeBytes number (schema.write m)
    | none => []
  size number m :=
    match m with
    | some m => bytesSize number (schema.size m)
    | none => 0
  merge depth payload m :=
    match payload with
    -- Occurrences are merged into one
    | .bytes content => (schema.merge (depth - 1) content (m.getD default)).map some
    | _ => none

/-- A list of messages. -/
def messages {τ : Type} [Inhabited τ] (schema : Schema τ) : Kind (List τ) where
  write number ms := ms.flatMap fun m => writeBytes number (schema.write m)
  size number ms := totalSize (fun m => bytesSize number (schema.size m)) ms
  merge depth payload ms :=
    match payload with
    -- Each occurrence is one more message
    | .bytes content => (schema.merge (depth - 1) content default).map fun m => ms ++ [m]
    | _ => none

/-- The numbers of a byte string that packs them, four bytes each, behind those in `done`, which are in
reverse order. -/
def unpackFrom (done : List Single) : List UInt8 → Option (List Single)
  | [] => some done.reverse
  | a :: b :: c :: d :: rest =>
    match ofLittleEndian [a, b, c, d] with
    | some w => unpackFrom (⟨w⟩ :: done) rest
    | none => none
  | _ => none

/-- A list of single-precision numbers, written as one byte string and read in that form or one by
one. -/
def singles : Kind (List Single) where
  write number xs :=
    if xs.isEmpty then [] else writeBytes number (xs.flatMap fun x => littleEndian x.bits)
  size number xs := if xs.isEmpty then 0 else bytesSize number (4 * xs.length)
  merge _ payload xs :=
    match payload with
    | .bytes content => (unpackFrom [] content).map fun ys => xs ++ ys
    -- Unpacked, one number at a time
    | .fixed32 content => (ofLittleEndian content).map fun w => xs ++ [⟨w⟩]
    | _ => none

/-- The fields of one entry of a map: its key and its value. -/
def entrySchema : Schema (String × String) :=
  [ .of 1 text Prod.fst fun k e => (k, e.2),
    .of 2 text Prod.snd fun v e => (e.1, v) ]

/-- A map from texts to texts: one message for each entry. -/
def attributes : Kind Attributes where
  write number a := a.entries.flatMap fun e => writeBytes number (entrySchema.write e)
  size number a := totalSize (fun e => bytesSize number (entrySchema.size e)) a.entries
  merge depth payload a :=
    match payload with
    | .bytes content => (entrySchema.merge (depth - 1) content ("", "")).map fun e => a.insert e.1 e.2
    | _ => none
  -- The kind in the key of an entry does not matter
  byLength := true

end Kind

end TelemetryGateway.Telemetry.Wire
