import TelemetryGateway.Text.Integer
import TelemetryGateway.Yaml.Cursor

/-!
# YAML scalars

Scalars in quotes, scalars without, and scalars written as indented blocks. A scalar of the first two
kinds may go on in the next lines: a single break between two lines is a blank, of several breaks one is
dropped, and blanks around breaks do not count. A block keeps its breaks, or joins its lines in the same
way but for those that start with a blank.

## Main definitions

- `Folded`: lines joined into one text
- `single?`, `double?`: what stands in quotes
- `plain?`: a scalar without quotes
- `block?`: a scalar as a block of lines
-/

namespace TelemetryGateway.Yaml

open TelemetryGateway.Text (Integer.digitsIn?)

/-! ## Lines joined -/

/-- Lines that are being joined. -/
structure Folded where
  /-- The text so far, backwards. -/
  text : List Char := []
  /-- The blanks behind it, backwards. -/
  blanks : List Char := []
  breaks : Nat := 0
  /-- The line was broken by a backslash. -/
  joined : Bool := false

namespace Folded

/-- The text is followed by a break. -/
def broken (f : Folded) : Bool := f.joined || 0 < f.breaks

/-- What the blanks and breaks behind the text amount to, backwards. -/
def gap (f : Folded) : List Char :=
  if f.joined then List.replicate f.breaks '\n'
  else match f.breaks with
    | 0 => f.blanks
    -- One break folds to a blank, and of several the first one is left out
    | 1 => [' ']
    | n + 1 => List.replicate n '\n'

def push (f : Folded) (c : Char) : Folded :=
  { text := c :: (f.gap ++ f.text) }

/-- One blank more; at the start of a line it does not count. -/
def blank (f : Folded) (c : Char) : Folded :=
  if f.broken then f else { f with blanks := c :: f.blanks }

def lineBreak (f : Folded) : Folded :=
  { f with blanks := [], breaks := f.breaks + 1 }

/-- A break behind a backslash: the text goes on where the next line starts. -/
def join (f : Folded) : Folded :=
  { text := f.gap ++ f.text, joined := true }

/-- The whole text, with the blanks at its end. -/
def closed (f : Folded) : String := String.ofList (f.gap ++ f.text).reverse

/-- The whole text, without the blanks at its end. -/
def trimmed (f : Folded) : String := String.ofList f.text.reverse

end Folded

/-! ## Quotes -/

/-- A line starts where a collection at column `floor` does not let it, or a document ends. -/
def strays (floor : Nat) (f : Folded) (p : Place) (cs : List Char) : Bool :=
  f.broken && (p.column < floor || (p.column == 0 && atMark cs))

/-- A tab stands where a line needs blanks up to column `floor`. -/
def tabStrays (floor : Nat) (f : Folded) (p : Place) (c : Char) : Bool :=
  f.broken && c = '\t' && p.column < floor

/-- The text up to a single quote; two of them stand for one. -/
def single? (floor : Nat) (f : Folded) (p : Place) : List Char → Option (String × Cursor)
  | [] => none
  | '\'' :: '\'' :: cs =>
    if strays floor f p [] then none
    else single? floor (f.push '\'') ((p.after '\'').after '\'') cs
  | c :: cs =>
    if c = '\n' then single? floor f.lineBreak (p.after c) cs
    else if isSpace c then
      if tabStrays floor f p c then none else single? floor (f.blank c) (p.after c) cs
    else if strays floor f p (c :: cs) then none
    else if c = '\'' then some (f.closed, ⟨p.after c, cs⟩)
    else single? floor (f.push c) (p.after c) cs

/-- The character of a letter behind a backslash. -/
def escaped? (c : Char) : Option Char :=
  match c with
  | '0' => some (Char.ofNat 0)
  | 'a' => some '\x07'
  | 'b' => some '\x08'
  | 't' | '\t' => some '\t'
  | 'n' => some '\n'
  | 'v' => some '\x0b'
  | 'f' => some '\x0c'
  | 'r' => some '\r'
  | 'e' => some '\x1b'
  | ' ' => some ' '
  | '"' => some '"'
  | '/' => some '/'
  | '\\' => some '\\'
  | 'N' => some '\u0085'
  | '_' => some '\u00a0'
  | 'L' => some '\u2028'
  | 'P' => some '\u2029'
  | _ => none

/-- The number of hexadecimal digits behind a letter behind a backslash. -/
def escapeWidth (c : Char) : Nat :=
  match c with
  | 'x' => 2
  | 'u' => 4
  | 'U' => 8
  | _ => 0

def charOf? (n : Nat) : Option Char :=
  if h : n.isValidChar then some (Char.ofNatAux n h) else none

/-- The character that stands behind a backslash, and the count of the characters it is written in. -/
def escape? : List Char → Option (Char × Nat)
  | [] => none
  | c :: cs =>
    match escapeWidth c with
    | 0 => (escaped? c).map fun d => (d, 1)
    | width + 1 =>
      let digits := cs.take (width + 1)
      if digits.length = width + 1 then
        ((Integer.digitsIn? 16 digits).bind charOf?).map fun d => (d, width + 2)
      else none

/-- The text up to a double quote, with backslashes in front of what cannot be written otherwise. The
first `skip` characters belong to what a backslash has started. -/
def double? (floor skip : Nat) (f : Folded) (p : Place) : List Char → Option (String × Cursor)
  | [] => none
  | c :: cs =>
    let next := p.after c
    match skip with
    | skip + 1 => double? floor skip f next cs
    | 0 =>
      if c = '\n' then double? floor 0 f.lineBreak next cs
      else if isSpace c then
        if tabStrays floor f p c then none else double? floor 0 (f.blank c) next cs
      else if strays floor f p (c :: cs) then none
      else if c = '"' then some (f.closed, ⟨next, cs⟩)
      else if c = '\\' then
        -- A break behind a backslash is no blank
        if cs.head? = some '\n' then double? floor 1 f.join next cs
        else
          match escape? cs with
          | some (d, width) => double? floor width (f.push d) next cs
          | none => none
      else double? floor 0 (f.push c) next cs

/-! ## Without quotes -/

/-- A scalar without quotes goes on with the next character. -/
def continuesPlain (inBrackets : Bool) : List Char → Bool
  | [] => false
  | c :: cs =>
    -- A colon that parts a name from a value does not belong to it, nor, in brackets, what parts items
    if c = ':' then !(atWordEnd cs || (inBrackets && atBracketing cs))
    else !(inBrackets && isBracketing c)

/-- The scalar from here, whose lines start at column `least` or further on. -/
def plainFrom? (inBrackets : Bool) (least : Nat) (b : Blankness) (f : Folded) (p : Place) :
    List Char → Option (String × Cursor)
  | [] => some (f.trimmed, ⟨p, []⟩)
  | c :: cs =>
    let next := p.after c
    let stop := some (f.trimmed, ⟨p, c :: cs⟩)
    let parted := f.broken || f.blanks ≠ []
    if c = '\n' then
      -- The break behind a comment does not count
      plainFrom? inBrackets least .plain (if b = .comment then f else f.lineBreak) next cs
    else if b = .comment then plainFrom? inBrackets least b f next cs
    else if b = .tabbed ∧ c = '#' then plainFrom? inBrackets least .comment f next cs
    else if isSpace c then
      -- A tab does not count among the blanks in front of a line, and only a comment may follow it
      let b := if c = '\t' ∧ f.broken ∧ p.column < least then .tabbed else b
      plainFrom? inBrackets least b (f.blank c) next cs
    else if b = .tabbed then none
    else if f.broken && ((!inBrackets && p.column < least) || atMark (c :: cs)) then stop
    else if parted && c = '#' then stop
    else if (parted || f.text = []) && inBrackets && c = '-' && atBracketing cs then none
    else if continuesPlain inBrackets (c :: cs) then
      plainFrom? inBrackets least .plain (f.push c) next cs
    else stop

def plain? (inBrackets : Bool) (least : Nat) (c : Cursor) : Option (String × Cursor) :=
  if c.place.fresh && atMark c.rest then none
  else plainFrom? inBrackets least .plain {} c.place c.rest

/-! ## Blocks -/

/-- What becomes of the breaks at the end of a block. -/
inductive Ending where
  | strip
  | clip
  | keep
deriving DecidableEq

/-- How a block is written. -/
structure BlockStyle where
  /-- Breaks stay as they are. -/
  literal : Bool
  ending : Ending
  /-- The indentation in addition to that of the collection around it, if it is given. -/
  indentation : Option Nat

namespace BlockStyle

/-- The ending that a sign asks for. -/
def ending? (c : Char) : Option Ending :=
  if c = '+' then some .keep else if c = '-' then some .strip else none

/-- The indentation that a digit asks for. -/
def indentation? (c : Char) : Option Nat :=
  if c.isDigit ∧ c ≠ '0' then some (c.toNat - 48) else none

/-- The style that the characters behind the mark of a block ask for, and how many there are. -/
def ofHeader? (literal : Bool) (cs : List Char) : Option (BlockStyle × Nat) :=
  match cs.head?.bind ending? with
  | some ending =>
    match cs.tail.head? with
    | some d =>
      if d.isDigit then (indentation? d).map fun n => (⟨literal, ending, some n⟩, 2)
      else some (⟨literal, ending, none⟩, 1)
    | none => some (⟨literal, ending, none⟩, 1)
  | none =>
    match cs.head? with
    | some d =>
      if d.isDigit then
        (indentation? d).map fun n =>
          match cs.tail.head?.bind ending? with
          | some ending => (⟨literal, ending, some n⟩, 2)
          | none => (⟨literal, .clip, some n⟩, 1)
      else some (⟨literal, .clip, none⟩, 0)
    | none => some (⟨literal, .clip, none⟩, 0)

end BlockStyle

/-- Past lines of nothing but blanks: how many there are, the greatest column at which one ends, and
where the first other line starts behind its blanks. -/
def emptyLines (count widest : Nat) (p : Place) : List Char → Nat × Nat × Cursor
  | [] => (count, max widest p.column, ⟨p, []⟩)
  | c :: cs =>
    if c = '\n' then emptyLines (count + 1) (max widest p.column) (p.after c) cs
    else if c = ' ' then emptyLines count widest (p.after c) cs
    else (count, max widest p.column, ⟨p, c :: cs⟩)

/-- Past the blanks up to the column `indent`, and past lines of nothing else: how many there are, and
where the first other line starts behind these blanks. -/
def indentLines (indent count : Nat) (p : Place) : List Char → Nat × Cursor
  | [] => (count, ⟨p, []⟩)
  | c :: cs =>
    if c = '\n' then indentLines indent (count + 1) (p.after c) cs
    else if c = ' ' ∧ p.column < indent then indentLines indent count (p.after c) cs
    else (count, ⟨p, c :: cs⟩)

/-- Lines of a block that are being put together. -/
structure Block where
  /-- The text so far, backwards. -/
  text : List Char := []
  /-- A line has ended behind the text. -/
  ended : Bool := false
  /-- The empty lines behind it. -/
  empty : Nat := 0
  /-- The last line starts with a blank. -/
  blank : Bool := false

/-- A block with one line more. -/
def Block.line (literal : Bool) (b : Block) (text : List Char) : Block :=
  let blank := text.head?.any isSpace
  -- Lines are joined unless one of the two starts with a blank
  let gap :=
    if !literal && b.ended && !b.blank && !blank then
      if b.empty = 0 then [' '] else List.replicate b.empty '\n'
    else List.replicate (b.empty + b.ended.toNat) '\n'
  { text := text.reverse ++ (gap ++ b.text), blank := blank }

/-- The lines of a block at the column `indent`. Only so many are read as `fuel` says. -/
def blockLines (literal : Bool) (indent : Nat) (b : Block) (c : Cursor) : Nat → Block × Cursor
  | 0 => (b, c)
  | fuel + 1 =>
    if c.rest = [] ∨ c.place.column ≠ indent ∨ (indent = 0 ∧ atClosingMark c.rest) then (b, c)
    else
      let next := c.lineEnd
      let b := b.line literal (c.rest.takeWhile (· != '\n'))
      if next.rest = [] then (b, next)
      else
        let (empty, next) := indentLines indent 0 (next.drop 1).place (next.drop 1).rest
        blockLines literal indent { b with ended := true, empty := empty } next fuel

/-- The text of a block that ends at a cursor. -/
def Block.closed (b : Block) (ending : Ending) (indent : Nat) (c : Cursor) : String :=
  let last :=
    if ending = .strip then 0
    else b.ended.toNat + (c.rest.isEmpty && max indent 1 ≤ c.place.column).toNat
  let empty := if ending = .keep then b.empty else 0
  String.ofList (List.replicate (last + empty) '\n' ++ b.text).reverse

/-- The text of a block of `empty` empty lines, in a text that ends with it on another line than it
starts. -/
def emptyBlock (ending : Ending) (headed : Bool) (empty : Nat) (sameLine : Bool) : String :=
  let count := match ending with
    | .strip => 0
    | .clip => headed.toNat
    | .keep => if empty = 0 then headed.toNat else empty
  String.ofList (List.replicate (if sameLine then 0 else count) '\n')

/-- The scalar that is written as a block, behind its mark, in a collection whose contents start at the
column `inner` or further on. -/
def block? (literal : Bool) (inner : Nat) (start : Cursor) : Option (String × Cursor) := do
  let (style, width) ← BlockStyle.ofHeader? literal start.rest
  let c ← (start.drop width).restOfLine?
  let headed := !c.rest.isEmpty
  let c := c.drop 1
  if c.rest.head? = some '\t' then none
  let (indent, empty, c) := match style.indentation with
    | some n =>
      let indent := inner - 1 + n
      let (empty, c) := indentLines indent 0 c.place c.rest
      (indent, empty, c)
    | none =>
      let (empty, widest, c) := emptyLines 0 0 c.place c.rest
      (max widest inner, empty, c)
  if c.rest.isEmpty then
    some (emptyBlock style.ending headed empty (c.place.line = start.place.line), c)
  else if c.place.column < indent ∧ inner ≤ c.place.column then none
  else
    let (b, c) := blockLines literal indent { empty := empty } c (c.rest.length + 1)
    some (b.closed style.ending indent c, c)

end TelemetryGateway.Yaml
