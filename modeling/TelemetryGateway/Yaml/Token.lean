import TelemetryGateway.Yaml.Tag

/-!
# YAML tokens

What a YAML text is made of: scalars, the marks around them, and the ends of collections by indentation,
which no mark shows. That a scalar is a name shows only at the colon behind it; where it may be one is
kept until then.

## Main definitions

- `Token`: a token
- `Level`, `PossibleKey`: a collection around a place, and a place where a name may start
- `Scan`, `Scan.step?`: how far a text is read, and one step of reading it
- `Token.ofText?`: the tokens of a text
-/

namespace TelemetryGateway.Yaml

/-- A token. -/
inductive Token where
  /-- A directive that gives the version. -/
  | version
  /-- A directive that gives a handle a meaning, or any other one. -/
  | handle (said : Option (String × String))
  | documentStart
  | documentEnd
  | listStart
  | tableStart
  | blockEnd
  | dash
  | openList
  | closeList
  | openTable
  | closeTable
  | comma
  /-- A name follows. -/
  | key
  /-- The value of a name follows. -/
  | value
  | anchor (name : String)
  | alias (name : String)
  | tag (t : Tag)
  /-- A scalar, without quotes or marks if it is `plain`. -/
  | scalar (plain : Bool) (text : String)
deriving DecidableEq

/-- A collection by indentation, or what else asks for an indentation. -/
structure Level where
  column : Nat
  /-- It is a collection, with an end of its own. -/
  collection : Bool

/-- A place where the name of an entry may start. -/
structure PossibleKey where
  /-- The number of tokens before it. -/
  index : Nat
  place : Place
  /-- Nothing else than a name may stand here. -/
  required : Bool

/-- How far a text is read. -/
structure Scan where
  cursor : Cursor
  tokens : Array Token := #[]
  /-- What asks for indentation, the innermost first. -/
  levels : List Level := []
  /-- Where a name may have started, between each pair of brackets around the cursor and outside of them,
  the innermost first. -/
  keys : List (Option PossibleKey) := [none]
  /-- A name may start at the next token. -/
  keyAllowed : Bool := true
  /-- Where a colon needs no blank behind it. -/
  tightColon : Option Place := none
  /-- A pair between brackets belongs to a table that has been opened. -/
  inTable : Bool := false
  /-- For each list in brackets, whether a table of one pair is open in it, the innermost first. -/
  pairs : List Bool := []

namespace Scan

def rest (s : Scan) : List Char := s.cursor.rest

def column (s : Scan) : Nat := s.cursor.place.column

def inBrackets (s : Scan) : Bool := 1 < s.keys.length

/-- The column that a line may not start before. -/
def floor (s : Scan) : Nat := (s.levels.head?.map Level.column).getD 0

/-- The least column of what belongs to the innermost collection. -/
def inner (s : Scan) : Nat := (s.levels.head?.map fun l => l.column + 1).getD 0

def emit (s : Scan) (t : Token) : Scan := { s with tokens := s.tokens.push t }

/-- One token more, at a number of tokens from the start. -/
def insert (s : Scan) (index : Nat) (t : Token) : Scan :=
  { s with tokens := s.tokens.insertIdxIfInBounds index t }

/-! ## Levels -/

/-- The levels from the column `least` on come to their ends, and so do their collections. -/
def closeLevels (least : Nat) (tokens : Array Token) : List Level → Array Token × List Level
  | [] => (tokens, [])
  | l :: ls =>
    if least ≤ l.column then
      closeLevels least (if l.collection then tokens.push .blockEnd else tokens) ls
    else (tokens, l :: ls)

/-- The collections by indentation from the column `least` on come to their ends. -/
def unroll (s : Scan) (least : Nat) : Scan :=
  if s.inBrackets then s
  else
    let (tokens, levels) := closeLevels least s.tokens s.levels
    { s with tokens := tokens, levels := levels }

/-- What asks for indentation without being a collection does not do so any more. -/
def unrollOther (s : Scan) : Scan :=
  { s with levels := s.levels.dropWhile fun l => !l.collection }

/-- A collection with an entry at a column is open; if it is new, it starts with the token `t` at a number
of tokens from the start. -/
def roll (s : Scan) (column index : Nat) (t : Token) : Scan :=
  if s.inBrackets then s
  else
    -- What only asked for an indentation gives way to the collection
    let s := match s.levels with
      | l :: ls => if !l.collection && l.column ≤ column then { s with levels := ls } else s
      | [] => s
    if s.inner ≤ column then { s.insert index t with levels := ⟨column, true⟩ :: s.levels } else s

/-- What follows is further in than the collection around it. -/
def rollOther (s : Scan) : Scan :=
  match s.levels with
  | l :: _ =>
    if l.collection && !s.inBrackets then { s with levels := ⟨l.column + 1, false⟩ :: s.levels } else s
  | [] => s

/-! ## Possible names -/

/-- The innermost place where a name may have started. -/
def possibleKey (s : Scan) : Option PossibleKey := s.keys.head?.getD none

/-- The innermost place where a name may have started is this one. -/
def setKey (s : Scan) (k : Option PossibleKey) : Scan := { s with keys := k :: s.keys.tail }

/-- A name may start here, if one may. -/
def saveKey (s : Scan) : Scan :=
  if s.keyAllowed then
    -- In the column of a collection by indentation, nothing else than a name may stand
    let required := !s.inBrackets && s.levels.head?.any fun l => l.collection && l.column == s.column
    s.setKey (some ⟨s.tokens.size, s.cursor.place, required⟩)
  else s

/-- No name has started where one might have; if there had to be one, the text is faulty. -/
def removeKey? (s : Scan) : Option Scan :=
  if s.possibleKey.any (·.required) then none else some (s.setKey none)

/-- Outside of brackets, a name ends on the line where it starts, at most `maxKeyLength` characters
further on. -/
def maxKeyLength : Nat := 1024

/-- A name that has become too long is none. -/
def dropStaleKey? (s : Scan) : Option Scan :=
  match s.possibleKey with
  | some k =>
    let place := s.cursor.place
    if !s.inBrackets && (k.place.line < place.line || k.place.column + maxKeyLength < place.column) then
      s.removeKey?
    else some s
  | none => some s

/-! ## Steps -/

/-- Past blanks, breaks and comments. -/
def skipGap? (s : Scan) : Option Scan :=
  (s.cursor.gap? s.floor).map fun c =>
    -- On a new line, a name may start
    let allowed := s.keyAllowed || (!s.inBrackets && s.cursor.place.line < c.place.line)
    { s with cursor := c, keyAllowed := allowed }

/-- Past the digits of a part of a version. -/
def versionPart? (c : Cursor) : Option Cursor :=
  let digits := c.rest.takeWhile Char.isDigit
  if 1 ≤ digits.length ∧ digits.length ≤ 9 then some (c.drop digits.length) else none

/-- Past the version in a directive. -/
def version? (c : Cursor) : Option Cursor := do
  let c ← versionPart? (c.dropWhile isSpace)
  if c.rest.head? = some '.' then versionPart? (c.drop 1) else none

def directive? (s : Scan) : Option Scan := do
  let s ← (s.unroll 0).removeKey?
  let start := s.cursor.drop 1
  let name := start.rest.takeWhile isWordChar
  let c := start.drop name.length
  if name = [] ∨ !atWordEnd c.rest then none
  -- Directives of other names are kept without their contents
  let (t, c) ←
    if name = "YAML".toList then (version? c).map fun c => (Token.version, c)
    else if name = "TAG".toList then (Tag.directive? c).map fun r => (Token.handle (some r.1), r.2)
    else some (Token.handle none, c.lineEnd)
  let c ← c.restOfLine?
  some ({ s with cursor := c.drop 1, keyAllowed := false }.emit t)

def documentMark? (s : Scan) (t : Token) : Option Scan := do
  let s ← (s.unroll 0).removeKey?
  some ({ s with cursor := s.cursor.drop 3, keyAllowed := false }.emit t)

/-- A mark at the end of a document, with which its line ends. -/
def documentEnd? (s : Scan) : Option Scan := do
  let s ← s.documentMark? .documentEnd
  let c ← s.cursor.restOfLine?
  some { s with cursor := c }

/-- The depth of brackets that is read. -/
def maxDepth : Nat := 255

def openBracket? (s : Scan) (t : Token) : Option Scan := do
  let s := s.saveKey.rollOther
  if maxDepth < s.keys.length then none
  let c ← (s.cursor.drop 1).spaces?
  some ({ s with
    cursor := c
    keys := none :: s.keys
    keyAllowed := true
    inTable := s.inTable || t = Token.openTable
    pairs := if t = Token.openTable then s.pairs else false :: s.pairs }.emit t)

/-- The table of one pair that is open in the innermost list comes to its end. -/
def endPair (s : Scan) : Scan :=
  match s.pairs with
  | true :: pairs => { s with inTable := false, pairs := false :: pairs }.emit .closeTable
  | _ => s

def closeBracket? (s : Scan) (t : Token) : Option Scan := do
  let s ← s.removeKey?
  let s := if s.inBrackets then { s with keys := s.keys.tail } else s
  let s := if t = .closeList then { s.endPair with pairs := s.pairs.tail } else s
  let c ← (s.cursor.drop 1).spaces?
  some ({ s with
    cursor := c
    keyAllowed := false
    tightColon := if s.inBrackets then some c.place else s.tightColon }.emit t)

def comma? (s : Scan) : Option Scan := do
  let s ← s.removeKey?
  let c ← (s.cursor.drop 1).spaces?
  some ({ s.endPair with cursor := c, keyAllowed := true }.emit .comma)

/-- The mark of a list item; another one does not follow a tab. -/
def dash? (s : Scan) : Option Scan := do
  if s.inBrackets ∨ !s.keyAllowed then none
  let s := s.roll s.column s.tokens.size .listStart
  let start := s.cursor.drop 1
  let c ← start.spaces?
  -- Behind a tab, the next mark would have no column
  if (start.rest.takeWhile isSpace).contains '\t' ∧ c.rest.head? = some '-' ∧ atWordEnd c.rest.tail then
    none
  let s := { s with cursor := c }
  let s := if !c.rest.isEmpty && atLineEnd c.rest || atBracketing c.rest then s.rollOther else s
  let s ← s.removeKey?
  some ({ s with keyAllowed := true }.emit .dash)

/-- The mark in front of a name. -/
def key? (s : Scan) : Option Scan := do
  if !s.inBrackets ∧ !s.keyAllowed then none
  let s := if s.inBrackets then { s with inTable := true }
    else s.roll s.column s.tokens.size .tableStart
  let s ← s.removeKey?
  let start := s.cursor.drop 1
  if start.rest.isEmpty ∨ start.rest.head? = some '\t' then none
  let c ← blanks? start
  some ({ s with cursor := c, keyAllowed := !s.inBrackets }.emit .key)
where
  /-- Past blanks, breaks and comments; there are no tabs in front of a name. -/
  blanks? (c : Cursor) : Option Cursor :=
    (blanksFrom false c.place c.rest).filter fun c => c.rest.head? ≠ some '\t'
  /-- Past blanks, breaks and comments. -/
  blanksFrom (comment : Bool) (p : Place) : List Char → Option Cursor
    | [] => some ⟨p, []⟩
    | c :: cs =>
      if c = '\n' then blanksFrom false (p.after c) cs
      else if comment || c = '#' then blanksFrom true (p.after c) cs
      else if c = ' ' then blanksFrom false (p.after c) cs
      else some ⟨p, c :: cs⟩

/-- Past the mark in front of a value; a tab alone does not part it from a word. -/
def pastColon? (c : Cursor) : Option Cursor :=
  let start := c.drop 1
  if start.rest.head? = some '\t' then do
    let next ← start.spaces?
    let blanks := start.rest.takeWhile isSpace
    if !blanks.contains ' ' ∧ next.rest.head?.any isWordChar then none else some next
  else some start

/-- The mark in front of a value. -/
def value? (s : Scan) : Option Scan := do
  let place := s.cursor.place
  let pairing := !s.pairs.isEmpty && !s.inTable
  let s := if pairing then { s with pairs := true :: s.pairs.tail } else s
  let s := { s with cursor := ← pastColon? s.cursor }
  match s.possibleKey with
  -- What stands before the mark is the name: its tokens are set in front of it afterwards
  | some k =>
    if pairing ∧ k.place.line < place.line then none
    let s := s.insert k.index .key
    let s := if pairing then s.insert k.index .openTable else s
    let s := (s.roll k.place.column k.index .tableStart).rollOther
    some ({ s.setKey none with keyAllowed := false }.emit .value)
  -- The name is missing, or has been marked as one
  | none =>
    let s := if pairing then s.emit .openTable else s
    if !s.inBrackets ∧ !s.keyAllowed then none
    let s := (s.roll place.column s.tokens.size .tableStart).rollOther
    some ({ s with keyAllowed := !s.inBrackets }.emit .value)

/-- A character of the name of an anchor. -/
def isAnchorChar (c : Char) : Bool :=
  !(isSpace c || c = '\n' || c = '\ufeff' || isBracketing c)

/-- A name behind an ampersand or an asterisk. -/
def anchor? (s : Scan) (t : String → Token) : Option Scan :=
  let s := s.saveKey
  let start := s.cursor.drop 1
  let name := start.rest.takeWhile isAnchorChar
  if name = [] then none
  else
    some ({ s with cursor := start.drop name.length, keyAllowed := false }.emit
      (t (String.ofList name)))

def tag? (s : Scan) : Option Scan := do
  let s := s.saveKey
  let (t, c) ← Tag.read? s.cursor
  if atWordEnd c.rest ∨ (s.inBrackets ∧ atBracketing c.rest) then
    some ({ s with cursor := c, keyAllowed := false }.emit (.tag t))
  else none

def block? (s : Scan) (literal : Bool) : Option Scan := do
  let s := s.saveKey.unrollOther
  let (text, c) ← Yaml.block? literal s.inner (s.cursor.drop 1)
  some ({ s with cursor := c, keyAllowed := true }.emit (.scalar false text))

/-- What may follow a scalar in quotes that starts on a line. -/
def mayFollowQuote (s : Scan) (line : Nat) (c : Cursor) : Bool :=
  match c.rest with
  | [] => true
  | d :: _ =>
    d = '\n' || (s.inBrackets && (d = ',' || d = ']' || d.toNat = 0x7D)) ||
      (d = ':' && (s.inBrackets || line == c.place.line))

def quoted? (s : Scan) (read? : Place → List Char → Option (String × Cursor)) : Option Scan := do
  let s := s.saveKey
  let start := s.cursor.drop 1
  let (text, c) ← read? start.place start.rest
  let c ← c.spaces?
  if !s.mayFollowQuote start.place.line c then none
  let s ← { s with cursor := c, keyAllowed := false }.skipGap?
  some ({ s with tightColon := some s.cursor.place }.emit (.scalar false text))

def plain? (s : Scan) : Option Scan := do
  let s := s.saveKey.unrollOther
  if s.inBrackets ∧ s.column < s.inner then none
  let (text, c) ← Yaml.plain? s.inBrackets s.inner s.cursor
  some ({ s with cursor := c, keyAllowed := c.place.fresh }.emit (.scalar true text))

/-- A colon in front of a value starts here. -/
def atValue (s : Scan) : Bool :=
  let behind := s.rest.tail
  atWordEnd behind ||
    (s.inBrackets && (atBracketing behind || s.tightColon == some s.cursor.place))

/-- The token that starts with a character, and what comes with it. -/
def token? (s : Scan) (c : Char) : Option Scan :=
  let marked := atWordEnd s.rest.tail
  if c = '[' then s.openBracket? .openList
  else if c.toNat = 0x7B then s.openBracket? .openTable
  else if c = ']' then s.closeBracket? .closeList
  else if c.toNat = 0x7D then s.closeBracket? .closeTable
  else if c = ',' then s.comma?
  else if c = '-' ∧ marked then s.dash?
  else if c = '?' ∧ marked then s.key?
  else if c = ':' ∧ s.atValue then s.value?
  else if c = '*' then s.anchor? .alias
  else if c = '&' then s.anchor? .anchor
  else if c = '!' then s.tag?
  else if c = '|' ∧ !s.inBrackets then s.block? true
  else if c = '>' ∧ !s.inBrackets then s.block? false
  else if c = '\'' then s.quoted? (single? s.floor {})
  else if c = '"' then s.quoted? (double? s.floor 0 {})
  -- Reserved characters start nothing
  else if c = '%' ∨ c = '@' ∨ c.toNat = 0x60 then none
  else s.plain?

/-- One token and what comes with it. The scan is at a token. -/
def step? (s : Scan) (c : Char) : Option Scan :=
  -- A collection further in than the token has ended before it
  let s := s.unroll (s.column + 1)
  if s.column = 0 ∧ c = '%' then s.directive?
  else if s.column = 0 ∧ atOpeningMark s.rest then s.documentMark? .documentStart
  else if s.column = 0 ∧ atClosingMark s.rest then s.documentEnd?
  else if s.column < s.floor then none
  else s.token? c

/-- All tokens of a text from here on. Every step gets further in the text, and only so many are made as
`fuel` says. -/
def run? (s : Scan) : Nat → Option (Array Token)
  | 0 => none
  | fuel + 1 =>
    match s.skipGap?.bind dropStaleKey? with
    | none => none
    | some s =>
      match s.rest with
      | [] => if s.possibleKey.any (·.required) then none else some (s.unroll 0).tokens
      | c :: _ => (s.step? c).bind fun s => run? s fuel

end Scan

/-- The tokens of a text. -/
def Token.ofText? (text : String) : Option (List Token) :=
  -- Only what comes before a zero character counts
  let cs := normalizeBreaks (text.toList.takeWhile fun c => c.toNat ≠ 0)
  (Scan.run? { cursor := ⟨{}, cs⟩ } (cs.length + 1)).map Array.toList

end TelemetryGateway.Yaml
