import TelemetryGateway.Yaml.Scalar

/-!
# YAML tags

A tag names the type of a value. It is written with a handle, which stands for the start of its name, and
a suffix. The handle `!!` stands for the types of YAML itself, unless a directive says otherwise.

## Main definitions

- `Tag`: a tag
- `Tag.read?`: the tag that starts at a place, as it is written
- `Tag.directive?`: what a handle stands for, as a directive says it
- `Tag.resolve?`: the tag that is meant
-/

namespace TelemetryGateway.Yaml

open TelemetryGateway.Text (Integer.digitsIn?)

/-- A letter, a digit, an underscore or a hyphen. -/
def isWordChar (c : Char) : Bool := c.isAlphanum || c = '_' || c = '-'

def isAddressChar (c : Char) : Bool := isWordChar c || "#;/?:@&=+$,.!~*'()[]%".toList.contains c

def isSuffixChar (c : Char) : Bool := isAddressChar c && !isBracketing c && c ≠ '!'

/-- The number of bytes that stand for a character whose first byte is this one. -/
def escapedWidth? (byte : Nat) : Option Nat :=
  if byte < 0x80 then some 1
  else if byte < 0xC0 then none
  else if byte < 0xE0 then some 2
  else if byte < 0xF0 then some 3
  else if byte < 0xF8 then some 4
  else none

/-- The byte that two hexadecimal digits behind a percent sign spell. -/
def escapedByte? : List Char → Option Nat
  | '%' :: a :: b :: _ => Integer.digitsIn? 16 [a, b]
  | _ => none

/-- The number that `count` more bytes behind percent signs make, behind the bytes of `n`. -/
def escapedTail? (n : Nat) : Nat → List Char → Option Nat
  | 0, _ => some n
  | count + 1, cs =>
    match escapedByte? cs with
    | some byte =>
      if byte / 64 = 2 then escapedTail? (256 * n + byte) count (cs.drop 3) else none
    | none => none

/-- The character that bytes behind percent signs stand for, and how many bytes there are. Its number is
that of its bytes side by side. -/
def escapedChar? (cs : List Char) : Option (Char × Nat) := do
  let byte ← escapedByte? cs
  let width ← escapedWidth? byte
  let n ← escapedTail? byte (width - 1) (cs.drop 3)
  (charOf? n).map fun c => (c, width)

/-- The characters in front that a test accepts, with percent signs resolved, and the count of characters
that they are written in. The first `skip` characters belong to a percent sign before them. -/
def addressFrom? (test : Char → Bool) (skip count : Nat) (text : List Char) :
    List Char → Option (String × Nat)
  | [] => some (String.ofList text.reverse, count)
  | c :: cs =>
    match skip with
    | skip + 1 => addressFrom? test skip (count + 1) text cs
    | 0 =>
      if c = '%' ∧ test c then
        match escapedChar? (c :: cs) with
        | some (d, width) => addressFrom? test (3 * width - 1) (count + 1) (d :: text) cs
        | none => none
      else if test c then addressFrom? test 0 (count + 1) (c :: text) cs
      else some (String.ofList text.reverse, count)

/-- The characters in front that a test accepts, with percent signs resolved, and what follows. -/
def address? (test : Char → Bool) (c : Cursor) : Option (String × Cursor) :=
  (addressFrom? test 0 0 [] c.rest).map fun r => (r.1, c.drop r.2)

/-- A tag: a type of the values of a text. -/
structure Tag where
  handle : String
  suffix : String
deriving DecidableEq

namespace Tag

/-- What the handle of YAML's own types stands for. -/
def standard : String := "tag:yaml.org,2002:"

/-- The handle that starts at a place: a word behind an exclamation mark, perhaps with another one behind
it. -/
def handle? (c : Cursor) : Option (String × Cursor) :=
  match c.rest with
  | '!' :: cs =>
    let word := cs.takeWhile isWordChar
    let next := c.drop (1 + word.length)
    match next.rest with
    | '!' :: _ => some (String.ofList ('!' :: word ++ ['!']), next.drop 1)
    | _ => some (String.ofList ('!' :: word), next)
  | _ => none

/-- A handle that a directive can give a meaning to. -/
def isNamed (handle : String) : Bool :=
  2 ≤ handle.length && handle.endsWith "!"

/-- The tag that starts at a place, as it is written: an address between angle brackets; a handle and a
suffix; or a suffix behind an exclamation mark, or nothing. -/
def read? (c : Cursor) : Option (Tag × Cursor) :=
  match c.rest with
  | '!' :: '<' :: _ => do
    let (suffix, next) ← address? isAddressChar (c.drop 2)
    if next.rest.head? = some '>' then some (⟨"", suffix⟩, next.drop 1) else none
  | _ => do
    let (handle, next) ← handle? c
    let (suffix, next) ← address? isSuffixChar next
    if isNamed handle then
      if suffix = "" then none else some (⟨handle, suffix⟩, next)
    else
      let suffix := String.ofList handle.toList.tail ++ suffix
      if suffix = "" then some (⟨"", "!"⟩, next) else some (⟨"!", suffix⟩, next)

/-- A handle and what it stands for, as a directive gives them. -/
def directive? (c : Cursor) : Option ((String × String) × Cursor) := do
  let (handle, next) ← handle? (c.dropWhile isSpace)
  if handle = "!" ∨ isNamed handle then
    let start := next.dropWhile isSpace
    if start.rest.head?.any fun d => d = '!' || isSuffixChar d then
      let (meaning, next) ← address? isAddressChar start
      if atWordEnd next.rest then some ((handle, meaning), next) else none
    else none
  else none

/-- The tag that is meant, where a directive says what one handle stands for. -/
def resolve? (said : Option (String × String)) (t : Tag) : Option Tag :=
  match said.filter fun s => s.1 = t.handle with
  | some s => some { t with handle := s.2 }
  | none =>
    if t.handle = "!!" then some { t with handle := standard }
    else if isNamed t.handle then none
    else some t

end Tag

end TelemetryGateway.Yaml
