import TelemetryGateway.Json.Tree
import TelemetryGateway.Text.Hex
import TelemetryGateway.Text.Octets

/-!
# Reading JSON

A machine that takes a text byte by byte. It holds the containers that are open, innermost first, and
a mode that says what may come next. A byte that may not come next ends the reading: the machine
stays where it is. Nesting is bounded by nothing but the text.

Blanks are space, tab, line feed and carriage return. There are no comments, no trailing commas and no
byte order mark. In strings a byte below 32 is a fault and so is an escape that JSON does not have;
whether the content is UTF-8 is decided when the string ends.

## Main definitions

- `Machine`: open containers and mode
- `Machine.step`: one byte
- `read`: a whole text
-/

namespace TelemetryGateway.Json

open TelemetryGateway.Text

/-- A part of a string between its quotes. -/
inductive Piece where
  /-- A byte, written as such or by a short escape. -/
  | byte (b : UInt8)
  /-- A UTF-16 unit, written as `\u` and four digits. -/
  | unit (u : Nat)

namespace Piece

/-- The unit is the first half of a surrogate pair. -/
def leads (u : Nat) : Bool := 0xD800 ≤ u && u < 0xDC00

/-- The unit is the second half of a surrogate pair. -/
def trails (u : Nat) : Bool := 0xDC00 ≤ u && u < 0xE000

/-- The UTF-8 bytes of one code point. -/
def encode (n : Nat) : List UInt8 :=
  utf8 (String.singleton (Char.ofNat n))

/-- The bytes of pieces in reverse order, before the bytes `tail`, if each half of a surrogate pair has
its other half beside it. -/
def join : List Piece → List UInt8 → Option (List UInt8)
  | [], tail => some tail
  | .byte b :: ps, tail => join ps (b :: tail)
  | [.unit u], tail => if leads u || trails u then none else some (encode u ++ tail)
  | .unit u :: .byte b :: ps, tail =>
    if leads u || trails u then none else join (.byte b :: ps) (encode u ++ tail)
  | .unit v :: .unit u :: ps, tail =>
    if trails v then
      if leads u then join ps (encode (0x10000 + (u - 0xD800) * 0x400 + (v - 0xDC00)) ++ tail)
      else none
    else if leads v then none
    else join (.unit u :: ps) (encode v ++ tail)

/-- The text of pieces in reverse order. -/
def text? (ps : List Piece) : Option String :=
  (join ps []).bind ofUtf8?

end Piece

/-- An open container. -/
inductive Frame where
  /-- An array, with its items so far in reverse order. -/
  | items (done : List Tree)
  /-- An object between members, with those so far in reverse order. -/
  | members (done : List Member)
  /-- An object at a member whose name has been read. -/
  | member (done : List Member) (name : Option String)

/-- Where a string stands after a backslash. -/
inductive Escape where
  /-- Not behind a backslash. -/
  | none
  /-- Right behind it. -/
  | start
  /-- Behind `\u`: the digits still to come and the value of those read. -/
  | digits (left : Nat) (value : Nat)

/-- Where a number stands. -/
inductive NumberPart where
  | minus
  | zero
  | whole
  | point
  | places
  | exponentMark
  | exponentSign
  | exponent
deriving DecidableEq

/-- A number as far as it is read; digits are in reverse order. -/
structure Partial where
  part : NumberPart
  negative : Bool
  whole : List Char
  places : List Char
  lowered : Bool
  exponent : List Char

/-- What may come next. -/
inductive Mode where
  | value
  /-- The first item of an array, or its end. -/
  | firstItem
  /-- A comma, or the end of the innermost container. -/
  | between
  /-- The first name of an object, or its end. -/
  | firstName
  | name
  | colon
  /-- More of a string, which is a name or a value. -/
  | inString (isName : Bool) (pieces : List Piece) (escape : Escape)
  /-- More of a number. -/
  | inNumber (n : Partial)
  /-- The rest of `true`, `false` or `null`. -/
  | inWord (rest : List UInt8) (t : Tree)
  /-- Blanks after the value of the text. -/
  | ended (t : Tree)
  /-- Nothing: something else than blanks follows the value of the text. -/
  | exceeded (t : Tree)
  /-- Nothing: the text is no JSON. -/
  | stopped

/-- The reading machine. -/
structure Machine where
  /-- The open containers, innermost first. -/
  stack : List Frame
  mode : Mode

/-- Space, tab, line feed and carriage return. -/
def isBlankByte (b : UInt8) : Bool :=
  b == 0x20 || b == 0x09 || b == 0x0A || b == 0x0D

def isDigitByte (b : UInt8) : Bool :=
  0x30 ≤ b && b ≤ 0x39

def charOf (b : UInt8) : Char :=
  Char.ofNat b.toNat

/-- The byte that a short escape stands for. -/
def shortEscape? (b : UInt8) : Option UInt8 :=
  if b == 0x22 || b == 0x5C || b == 0x2F then some b
  else if b == 0x62 then some 0x08
  else if b == 0x66 then some 0x0C
  else if b == 0x6E then some 0x0A
  else if b == 0x72 then some 0x0D
  else if b == 0x74 then some 0x09
  else none

namespace Partial

/-- The number may end here. -/
def acceptable (n : Partial) : Bool :=
  match n.part with
  | .zero | .whole | .places | .exponent => true
  | _ => false

def numeral (n : Partial) : Numeral where
  negative := n.negative
  whole := n.whole.reverse
  places := if n.places.isEmpty then none else some n.places.reverse
  exponent :=
    if n.exponent.isEmpty then none
    else
      let v : Int := Number.Real.valueOf n.exponent.reverse
      some (if n.lowered then -v else v)

/-- One more byte of the number, if it can be one. -/
def step? (n : Partial) (b : UInt8) : Option Partial :=
  let digit := isDigitByte b
  let isMark := b == 0x65 || b == 0x45
  match n.part with
  | .minus =>
    if b == 0x30 then some { n with part := .zero, whole := ['0'] }
    else if digit then some { n with part := .whole, whole := [charOf b] }
    else none
  | .zero =>
    if b == 0x2E then some { n with part := .point }
    else if isMark then some { n with part := .exponentMark }
    else none
  | .whole =>
    if digit then some { n with whole := charOf b :: n.whole }
    else if b == 0x2E then some { n with part := .point }
    else if isMark then some { n with part := .exponentMark }
    else none
  | .point => if digit then some { n with part := .places, places := [charOf b] } else none
  | .places =>
    if digit then some { n with places := charOf b :: n.places }
    else if isMark then some { n with part := .exponentMark }
    else none
  | .exponentMark =>
    if b == 0x2B then some { n with part := .exponentSign }
    else if b == 0x2D then some { n with part := .exponentSign, lowered := true }
    else if digit then some { n with part := .exponent, exponent := [charOf b] }
    else none
  | .exponentSign =>
    if digit then some { n with part := .exponent, exponent := [charOf b] } else none
  | .exponent => if digit then some { n with exponent := charOf b :: n.exponent } else none

def start : Partial := ⟨.minus, false, [], [], false, []⟩

end Partial

namespace Machine

def start : Machine := ⟨[], .value⟩

def stop (m : Machine) : Machine := { m with mode := .stopped }

/-- A value has ended: it goes into the innermost container. -/
def place (stack : List Frame) (t : Tree) : Machine :=
  match stack with
  | [] => ⟨[], .ended t⟩
  | .items done :: rest => ⟨.items (t :: done) :: rest, .between⟩
  | .member done name :: rest => ⟨.members ((name, t) :: done) :: rest, .between⟩
  -- No value comes where a name is missing
  | .members done :: rest => ⟨.members done :: rest, .stopped⟩

/-- A string has ended. -/
def endString (m : Machine) (isName : Bool) (pieces : List Piece) : Machine :=
  let s := Piece.text? pieces
  -- A name that is no text is kept as missing; a value that is none has a tree of its own
  if isName then
    match m.stack with
    | .members done :: rest => ⟨.member done s :: rest, .colon⟩
    | _ => m.stop
  else
    match s with
    | some s => place m.stack (.string s)
    | none => place m.stack .unreadable

/-- The first byte of a value. -/
def startValue (m : Machine) (b : UInt8) : Machine :=
  if b == 0x22 then { m with mode := .inString false [] .none }
  else if b == 0x5B then ⟨.items [] :: m.stack, .firstItem⟩
  else if b == 0x7B then ⟨.members [] :: m.stack, .firstName⟩
  else if b == 0x74 then { m with mode := .inWord [0x72, 0x75, 0x65] (.bool true) }
  else if b == 0x66 then { m with mode := .inWord [0x61, 0x6C, 0x73, 0x65] (.bool false) }
  else if b == 0x6E then { m with mode := .inWord [0x75, 0x6C, 0x6C] .null }
  else if b == 0x2D then { m with mode := .inNumber { Partial.start with negative := true } }
  -- Without a sign, the byte is the first one of the number
  else
    match Partial.start.step? b with
    | some n => { m with mode := .inNumber n }
    | none => m.stop

/-- A byte after a value: a comma, or the end of the innermost container. -/
def stepBetween (m : Machine) (b : UInt8) : Machine :=
  if isBlankByte b then m
  else
    match m.stack with
    | .items done :: rest =>
      if b == 0x2C then { m with mode := .value }
      else if b == 0x5D then place rest (.array done.reverse)
      else m.stop
    | .members done :: rest =>
      if b == 0x2C then { m with mode := .name }
      else if b == 0x7D then place rest (.object done.reverse)
      else m.stop
    | _ => m.stop

def stepString (m : Machine) (isName : Bool) (pieces : List Piece) (escape : Escape) (b : UInt8) :
    Machine :=
  match escape with
  | .none =>
    if b == 0x22 then m.endString isName pieces
    else if b == 0x5C then { m with mode := .inString isName pieces .start }
    -- Control characters have to be escaped
    else if b < 0x20 then m.stop
    else { m with mode := .inString isName (.byte b :: pieces) .none }
  | .start =>
    if b == 0x75 then { m with mode := .inString isName pieces (.digits 4 0) }
    else
      match shortEscape? b with
      | some c => { m with mode := .inString isName (.byte c :: pieces) .none }
      | none => m.stop
  | .digits left value =>
    match Hex.value? b with
    | some d =>
      -- The last of the four digits makes up the unit
      if left ≤ 1 then { m with mode := .inString isName (.unit (value * 16 + d) :: pieces) .none }
      else { m with mode := .inString isName pieces (.digits (left - 1) (value * 16 + d)) }
    | none => m.stop

/-- A byte where no number stands. -/
def stepPlain (m : Machine) (b : UInt8) : Machine :=
  match m.mode with
  | .value => if isBlankByte b then m else m.startValue b
  | .firstItem =>
    if isBlankByte b then m
    else if b == 0x5D then
      match m.stack with
      | .items done :: rest => place rest (.array done.reverse)
      | _ => m.stop
    else m.startValue b
  | .between => m.stepBetween b
  | .firstName =>
    if isBlankByte b then m
    else if b == 0x22 then { m with mode := .inString true [] .none }
    else if b == 0x7D then
      match m.stack with
      | .members done :: rest => place rest (.object done.reverse)
      | _ => m.stop
    else m.stop
  | .name =>
    if isBlankByte b then m
    else if b == 0x22 then { m with mode := .inString true [] .none }
    else m.stop
  | .colon =>
    if isBlankByte b then m else if b == 0x3A then { m with mode := .value } else m.stop
  | .inString isName pieces escape => m.stepString isName pieces escape b
  | .inNumber _ => m.stop
  | .inWord rest t =>
    match rest with
    | [c] => if b == c then place m.stack t else m.stop
    | c :: cs => if b == c then { m with mode := .inWord cs t } else m.stop
    | [] => m.stop
  | .ended t => if isBlankByte b then m else { m with mode := .exceeded t }
  | .exceeded _ | .stopped => m

/-- One byte. -/
def step (m : Machine) (b : UInt8) : Machine :=
  match m.mode with
  | .inNumber n =>
    match n.step? b with
    | some n => { m with mode := .inNumber n }
    -- The number has ended before this byte, which is read as what follows it
    | none => if n.acceptable then (place m.stack (.number n.numeral)).stepPlain b else m.stop
  | _ => m.stepPlain b

/-- The tree of a container that is closed here, given what had ended inside it. -/
def closeFrame (inner : Option Tree) : Frame → Tree
  | .items done => .array (inner.toList ++ done).reverse
  | .members done => .object done.reverse
  | .member done name => .object ((inner.toList.map fun t => (name, t)) ++ done).reverse

/-- The tree of the open containers, innermost first, all closed here. -/
def closeAll (stack : List Frame) : Tree :=
  (stack.foldl (fun inner frame => some (closeFrame inner frame)) none).getD .unreadable

def finish (m : Machine) : Reading :=
  match m.mode with
  | .ended t => ⟨t, true⟩
  | .exceeded t => ⟨t, false⟩
  -- The end of the text may also be that of a number
  | .inNumber n =>
    if n.acceptable then
      match m.stack with
      | [] => ⟨.number n.numeral, true⟩
      | stack => ⟨closeAll stack, false⟩
    else ⟨closeAll m.stack, false⟩
  | _ => ⟨closeAll m.stack, false⟩

end Machine

/-- What a text says. -/
def read (bytes : List UInt8) : Reading :=
  (bytes.foldl Machine.step Machine.start).finish

end TelemetryGateway.Json
