import TelemetryGateway.Text.Hex
import TelemetryGateway.Text.Integer

/-!
# Network addresses

IPv4 and IPv6 addresses, in the texts that people write and the one text that programs write. A part of
an IPv4 address is written in decimal without leading zeros. A group of an IPv6 address is written in
hexadecimal; one run of zero groups may be left out between two colons, and the last two groups may be
written as an IPv4 address.

## Main definitions

- `Address`: an address of either family
- `Address.read?`: the address that a text spells
- `Address.text`: the usual text of an address
- `Endpoint`: an address and a port
-/

namespace TelemetryGateway.Net

open TelemetryGateway.Text

/-- An IPv4 address: four bytes. -/
structure Quad where
  a : UInt8
  b : UInt8
  c : UInt8
  d : UInt8
deriving DecidableEq, Repr

/-- An address of either family. -/
inductive Address where
  | v4 (q : Quad)
  /-- Eight groups of sixteen bits. -/
  | v6 (groups : Vector UInt16 8)
deriving DecidableEq, Repr

/-- The number at the front of a text, of at most `width` digits, and the rest. -/
def spanNumber? (isDigit : Char → Bool) (width : Nat) (cs : List Char) : Option (List Char × List Char) :=
  let ds := cs.takeWhile isDigit
  if ds = [] ∨ width < ds.length then none else some (ds, cs.drop ds.length)

namespace Quad

/-- A part at the front of a text: up to three digits, of which the first is no idle zero. -/
def part? (cs : List Char) : Option (UInt8 × List Char) :=
  match spanNumber? Char.isDigit 3 cs with
  | none => none
  | some (ds, rest) =>
    match Integer.digits? ds with
    | none => none
    | some n =>
      if 255 < n ∨ (1 < ds.length ∧ ds.head? = some '0') then none else some (UInt8.ofNat n, rest)

/-- A part behind a dot. -/
def next? : List Char → Option (UInt8 × List Char)
  | '.' :: cs => part? cs
  | _ => none

/-- The address at the front of a text, and the rest. -/
def readFront? (cs : List Char) : Option (Quad × List Char) := do
  let (a, cs) ← part? cs
  let (b, cs) ← next? cs
  let (c, cs) ← next? cs
  let (d, cs) ← next? cs
  some (⟨a, b, c, d⟩, cs)

def text (q : Quad) : String :=
  ".".intercalate ([q.a, q.b, q.c, q.d].map fun n => toString n.toNat)

/-- The two groups that an address stands for. -/
def groups (q : Quad) : List UInt16 :=
  [ UInt16.ofNat (256 * q.a.toNat + q.b.toNat), UInt16.ofNat (256 * q.c.toNat + q.d.toNat) ]

/-- The address that two groups stand for. -/
def ofGroups (high low : UInt16) : Quad where
  a := UInt8.ofNat (high.toNat / 256)
  b := UInt8.ofNat (high.toNat % 256)
  c := UInt8.ofNat (low.toNat / 256)
  d := UInt8.ofNat (low.toNat % 256)

end Quad

def isHexDigit (c : Char) : Bool :=
  c.isDigit || ('a' ≤ c && c ≤ 'f') || ('A' ≤ c && c ≤ 'F')

def hexValue (ds : List Char) : Nat :=
  ds.foldl (fun n d => 16 * n + (Hex.value? (UInt8.ofNat d.toNat)).getD 0) 0

/-- Groups at the front of a text. -/
structure Groups where
  groups : List UInt16
  /-- The last two are written as an IPv4 address. -/
  dotted : Bool
  rest : List Char

/-- What stands behind the colon between two groups; nothing has to stand before the first group. -/
def behindColon? (first : Bool) : List Char → Option (List Char)
  | cs@(':' :: rest) => if first then some cs else some rest
  | cs => if first then some cs else none

/-- The groups at the front of a text, at most `limit` of them. -/
def readGroups (first : Bool) : Nat → List Char → Groups
  | 0, cs => ⟨[], false, cs⟩
  | limit + 1, cs =>
    match behindColon? first cs with
    | none => ⟨[], false, cs⟩
    | some here =>
      -- An IPv4 address counts for two groups, and nothing follows it
      match (if 1 ≤ limit then Quad.readFront? here else none) with
      | some (q, rest) => ⟨q.groups, true, rest⟩
      | none =>
        match spanNumber? isHexDigit 4 here with
        | none => ⟨[], false, cs⟩
        | some (ds, rest) =>
          let more := readGroups false limit rest
          { more with groups := UInt16.ofNat (hexValue ds) :: more.groups }

/-- Eight groups from a list of them. -/
def ofList? (groups : List UInt16) : Option (Vector UInt16 8) :=
  if h : groups.length = 8 then some ⟨groups.toArray, h⟩ else none

/-- The eight groups that a text spells. -/
def readSextet? (cs : List Char) : Option (Vector UInt16 8) :=
  let head := readGroups true 8 cs
  if head.groups.length = 8 then
    if head.rest = [] then ofList? head.groups else none
  else if head.dotted then none
  else
    match head.rest with
    -- Two colons stand for one zero group or more
    | ':' :: ':' :: rest =>
      let tail := readGroups true (7 - head.groups.length) rest
      let gap := List.replicate (8 - head.groups.length - tail.groups.length) 0
      if tail.rest = [] then ofList? (head.groups ++ gap ++ tail.groups) else none
    | _ => none

/-- A run of zero groups: where it starts and how long it is. -/
structure ZeroRun where
  start : Nat
  length : Nat

/-- The longest run of zeros in a list of groups, the first one of several; `current` is the run that
ends before the list. -/
def longestRun (best current : ZeroRun) : List UInt16 → ZeroRun
  | [] => best
  | g :: gs =>
    if g = 0 then
      let current := { current with length := current.length + 1 }
      longestRun (if best.length < current.length then current else best) current gs
    else longestRun best ⟨current.start + current.length + 1, 0⟩ gs

/-- Groups in hexadecimal, with colons between them. -/
def groupsText (groups : List UInt16) : String :=
  ":".intercalate (groups.map fun g => Hex.ofNat g.toNat)

/-- The text of eight groups. -/
def sextetText (groups : List UInt16) : String :=
  match groups with
  -- The addresses that stand for IPv4 addresses are written as such
  | [0, 0, 0, 0, 0, 0xffff, high, low] => "::ffff:" ++ (Quad.ofGroups high low).text
  | _ =>
    let run := longestRun ⟨0, 0⟩ ⟨0, 0⟩ groups
    -- The longest run of two zeros or more is left out
    if run.length ≤ 1 then groupsText groups
    else groupsText (groups.take run.start) ++ "::" ++ groupsText (groups.drop (run.start + run.length))

namespace Address

/-- The address that a text spells. -/
def read? (s : String) : Option Address :=
  match Quad.readFront? s.toList with
  | some (q, []) => some (.v4 q)
  | _ => (readSextet? s.toList).map .v6

def text : Address → String
  | .v4 q => q.text
  | .v6 groups => sextetText groups.toList

/-- The address that stands for all addresses of its family. -/
def isUnspecified : Address → Bool
  | .v4 q => q = ⟨0, 0, 0, 0⟩
  | .v6 groups => groups = .replicate 8 0

/-- The loopback address of the same family. -/
def loopback : Address → Address
  | .v4 _ => .v4 ⟨127, 0, 0, 1⟩
  | .v6 _ => .v6 #v[0, 0, 0, 0, 0, 0, 0, 1]

end Address

/-- An address and a port. -/
structure Endpoint where
  address : Address
  port : UInt16
deriving DecidableEq, Repr

/-- The text of an endpoint: brackets keep the colons of an address apart from that of the port. -/
def Endpoint.text (e : Endpoint) : String :=
  match e.address with
  | .v4 _ => e.address.text ++ ":" ++ toString e.port.toNat
  | .v6 _ => "[" ++ e.address.text ++ "]:" ++ toString e.port.toNat

end TelemetryGateway.Net
