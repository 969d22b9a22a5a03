/-!
# Places in a YAML text

A text is read character by character, and what its characters mean depends on their columns. A cursor is
a text that is left, together with the place where it starts.

## Main definitions

- `Place`, `Place.after`: lines and columns, and how a character moves them
- `Cursor`, `Cursor.drop`: a text from a place on
- `Cursor.spaces?`, `Cursor.gap?`: past blanks and comments, on one line and over several
- `normalizeBreaks`: line ends of all kinds as breaks
-/

namespace TelemetryGateway.Yaml

/-- A blank or a tab. -/
def isSpace (c : Char) : Bool := c = ' ' || c = '\t'

/-- The characters between which collections in brackets are written. -/
def isBracketing (c : Char) : Bool := ",[]\x7b\x7d".toList.contains c

/-- A line ends here. -/
def atLineEnd : List Char → Bool
  | [] => true
  | c :: _ => c = '\n'

/-- A word ends here: the text ends, or there is a blank or a break. -/
def atWordEnd : List Char → Bool
  | [] => true
  | c :: _ => isSpace c || c = '\n'

/-- Something that parts items in brackets is next. -/
def atBracketing (cs : List Char) : Bool := cs.head?.any isBracketing

/-- The mark that opens a document. -/
def atOpeningMark : List Char → Bool
  | '-' :: '-' :: '-' :: rest => atWordEnd rest
  | _ => false

/-- The mark that closes a document. -/
def atClosingMark : List Char → Bool
  | '.' :: '.' :: '.' :: rest => atWordEnd rest
  | _ => false

def atMark (cs : List Char) : Bool := atOpeningMark cs || atClosingMark cs

/-- A place in a text. -/
structure Place where
  line : Nat := 0
  column : Nat := 0
  /-- There are only blanks before it on its line. -/
  fresh : Bool := true
deriving DecidableEq

/-- The place behind a character. -/
def Place.after (p : Place) (c : Char) : Place :=
  if c = '\n' then { line := p.line + 1 }
  else { p with column := p.column + 1, fresh := p.fresh && isSpace c }

/-- A text from a place on. -/
structure Cursor where
  place : Place
  rest : List Char

namespace Cursor

/-- Past a count of characters. -/
def drop (n : Nat) (c : Cursor) : Cursor :=
  ⟨(c.rest.take n).foldl Place.after c.place, c.rest.drop n⟩

/-- Past the characters in front that a test accepts. -/
def dropWhile (test : Char → Bool) (c : Cursor) : Cursor :=
  c.drop (c.rest.takeWhile test).length

/-- On to the end of the line. -/
def lineEnd (c : Cursor) : Cursor := c.dropWhile (· != '\n')

/-- Past the blanks and the comment on this line. A comment stands behind a blank. -/
def spaces? (c : Cursor) : Option Cursor :=
  let next := c.dropWhile isSpace
  if next.rest.head? = some '#' then
    if c.rest.head?.any isSpace then some next.lineEnd else none
  else some next

/-- Past the blanks and the comment on this line, of which nothing else may be left. -/
def restOfLine? (c : Cursor) : Option Cursor :=
  c.spaces?.filter fun next => atLineEnd next.rest

end Cursor

/-- What has been met on the way to the next token. -/
inductive Blankness where
  | plain
  /-- A tab where blanks were needed: nothing may follow on this line. -/
  | tabbed
  | comment
deriving DecidableEq

/-- Past blanks, breaks and comments; a tab does not make up for the blanks in front of the column
`floor`, if one is given. -/
def gapFrom? (floor : Nat) (b : Blankness) (p : Place) : List Char → Option Cursor
  | [] => some ⟨p, []⟩
  | c :: cs =>
    let next := p.after c
    if c = '\n' then gapFrom? floor .plain next cs
    else if b = .comment then gapFrom? floor b next cs
    else if c = '#' then gapFrom? floor .comment next cs
    else if c = '\t' ∧ p.fresh ∧ p.column < floor then gapFrom? floor .tabbed next cs
    else if isSpace c then gapFrom? floor b next cs
    else if b = .tabbed then none
    else some ⟨p, c :: cs⟩

/-- On to the next token, where blanks are needed up to the column `floor`. -/
def Cursor.gap? (c : Cursor) (floor : Nat) : Option Cursor :=
  gapFrom? floor .plain c.place c.rest

/-- Line ends of all kinds as breaks. -/
def normalizeBreaks : List Char → List Char
  | '\r' :: '\n' :: cs => '\n' :: normalizeBreaks cs
  | '\r' :: cs => '\n' :: normalizeBreaks cs
  | c :: cs => c :: normalizeBreaks cs
  | [] => []

end TelemetryGateway.Yaml
