import TelemetryGateway.Telemetry.Wire.Varint

/-!
# Fields on the wire

A message is a run of fields. Each starts with a key: its number, which is positive and fits thirty-two
bits together with three bits for the kind of its payload. A group is a run of items between a start
and an end mark with one number; nothing in a packet is a group, so only its bounds matter.

## Main definitions

- `Payload`, `Field`: a field by its number and what it carries
- `Item`: a field or one of the marks of a group
- `Item.readAll`: the items of a byte string
- `Field.readAll`: the fields of a byte string, where groups nest no deeper than a bound
- `writeVarint`, `writeBytes`: the bytes of a field
-/

namespace TelemetryGateway.Telemetry.Wire

/-- What a field carries. -/
inductive Payload where
  | varint (n : Nat)
  | fixed64 (bytes : List UInt8)
  | bytes (content : List UInt8)
  /-- A whole group. -/
  | group
  | fixed32 (bytes : List UInt8)
deriving DecidableEq, Repr

/-- A field by its number. -/
structure Field where
  number : Nat
  payload : Payload
deriving DecidableEq, Repr

/-- A part of a message between two keys. -/
inductive Item where
  | field (f : Field)
  | startGroup (number : Nat)
  | endGroup (number : Nat)
deriving DecidableEq, Repr

/-- The first `n` bytes and the rest, if there are as many. -/
def splitExactly (n : Nat) (bs : List UInt8) : Option (List UInt8 × List UInt8) :=
  let front := bs.take n
  if front.length = n then some (front, bs.drop n) else none

namespace Item

/-- The item at the front of a byte string, and what follows it. Fields whose numbers are `byLength` are
read as bytes behind their count, whatever kind their keys tell. -/
def read (byLength : Nat → Bool) (bs : List UInt8) : Option (Item × List UInt8) := do
  let (key, rest) ← Varint.decode bs
  let number := key / 8
  -- Keys have thirty-two bits, and there are six kinds
  if 0x100000000 ≤ key ∨ number = 0 ∨ 5 < key % 8 then none
  else
    match if byLength number then 2 else key % 8 with
    | 0 =>
      let (n, rest) ← Varint.decode rest
      some (.field ⟨number, .varint n⟩, rest)
    | 1 =>
      let (content, rest) ← splitExactly 8 rest
      some (.field ⟨number, .fixed64 content⟩, rest)
    | 2 =>
      let (length, rest) ← Varint.decode rest
      let (content, rest) ← splitExactly length rest
      some (.field ⟨number, .bytes content⟩, rest)
    | 3 => some (.startGroup number, rest)
    | 4 => some (.endGroup number, rest)
    | 5 =>
      let (content, rest) ← splitExactly 4 rest
      some (.field ⟨number, .fixed32 content⟩, rest)
    | _ => none

/-- How many groups are open behind an item, given how many are open in front of it. -/
def groupsAfter (groups : Nat) : Item → Nat
  | .field _ => groups
  | .startGroup _ => groups + 1
  | .endGroup _ => groups - 1

/-- The items of a byte string in so many open groups, behind those in `done`, which are in reverse
order. Each item takes at least one byte, so a bound of the length is never met. -/
def readWithin (byLength : Nat → Bool) :
    Nat → Nat → List UInt8 → List Item → Option (List Item)
  | _, _, [], done => some done.reverse
  | 0, _, _ :: _, _ => none
  | bound + 1, groups, b :: bs, done => do
    -- Inside a group every key tells the kind of its payload
    let (item, rest) ← read (fun number => groups == 0 && byLength number) (b :: bs)
    readWithin byLength bound (item.groupsAfter groups) rest (item :: done)

/-- The items of a byte string. -/
def readAll (byLength : Nat → Bool) (bs : List UInt8) : Option (List Item) :=
  readWithin byLength bs.length 0 bs []

end Item

namespace Field

/-- The fields of a run of items, behind those in `done`, which are in reverse order. `groups` holds the
numbers of the groups that are open; an item may stand in fewer than `depth` of them. -/
def ofItems (depth : Nat) (groups : List Nat) (done : List Field) : List Item → Option (List Field)
  | [] => if groups.isEmpty then some done.reverse else none
  | .field f :: items =>
    match groups with
    -- What stands inside a group is no field of the message
    | [] => ofItems depth [] (f :: done) items
    | _ => if groups.length < depth then ofItems depth groups done items else none
  | .startGroup n :: items =>
    if groups.length < depth then ofItems depth (n :: groups) done items else none
  | .endGroup n :: items =>
    match groups with
    | [] => none
    | [m] => if n = m then ofItems depth [] (⟨n, .group⟩ :: done) items else none
    | m :: outer => if n = m then ofItems depth outer done items else none

/-- The fields of a byte string, where an item stands in fewer than `depth` groups. -/
def readAll (byLength : Nat → Bool) (depth : Nat) (bs : List UInt8) : Option (List Field) :=
  (Item.readAll byLength bs).bind (ofItems depth [] [])

end Field

def writeKey (number kind : Nat) : List UInt8 :=
  Varint.encode (8 * number + kind)

def writeVarint (number n : Nat) : List UInt8 :=
  writeKey number 0 ++ Varint.encode n

/-- A field that carries bytes, behind their count. -/
def writeBytes (number : Nat) (content : List UInt8) : List UInt8 :=
  writeKey number 2 ++ Varint.encode content.length ++ content

/-- The four bytes of a word, the lowest first. -/
def littleEndian (w : UInt32) : List UInt8 :=
  [w.toUInt8, (w >>> 8).toUInt8, (w >>> 16).toUInt8, (w >>> 24).toUInt8]

/-- The word of four bytes, the lowest first. -/
def ofLittleEndian : List UInt8 → Option UInt32
  | [a, b, c, d] => some (a.toUInt32 ||| b.toUInt32 <<< 8 ||| c.toUInt32 <<< 16 ||| d.toUInt32 <<< 24)
  | _ => none

end TelemetryGateway.Telemetry.Wire
