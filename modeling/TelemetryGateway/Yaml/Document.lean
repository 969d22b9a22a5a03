import TelemetryGateway.Yaml.Node
import TelemetryGateway.Yaml.Token

/-!
# YAML documents

Values from tokens. A collection between brackets has its commas and its closing bracket, one by
indentation the mark of each item and its end. A value may be left out where another token says that the
next one begins. An anchor gives a name to a value that may be repeated further on.

## Main definitions

- `Source`: the tokens that are left, and the values that have been named
- `value?`: the value that starts with the next token
- `document?`: the one value of a text
-/

namespace TelemetryGateway.Yaml

/-- The tokens that are left, and what has been said before them. -/
structure Source where
  tokens : List Token
  /-- What a directive says that a handle stands for. -/
  handle : Option (String × String) := none
  /-- The values behind anchors, in their order; within its own value, an anchor stands for a void. -/
  anchors : List (String × Value) := []

namespace Source

def peek (s : Source) : Option Token := s.tokens.head?

def next (s : Source) : Source := { s with tokens := s.tokens.tail }

def isAt (s : Source) (ts : List Token) : Bool := s.peek.any ts.contains

/-- Past the next token, if it is this one. -/
def past? (s : Source) (t : Token) : Option Source :=
  if s.isAt [t] then some s.next else none

/-- The value that a name stands for: that of the last anchor of this name. -/
def valueOf? (s : Source) (name : String) : Option Value := s.anchors.reverse.lookup name

/-- An anchor stands for nothing yet. -/
def openAnchor (s : Source) (name : Option String) : Source :=
  match name with
  | some name => { s with anchors := s.anchors ++ [(name, .void)] }
  | none => s

/-- The anchor with a number stands for a value. -/
def setAnchor (s : Source) (number : Nat) (name : Option String) (v : Value) : Source :=
  match name with
  | some name => { s with anchors := s.anchors.set number (name, v) }
  | none => s

def anchor (s : Source) : Option String × Source :=
  match s.peek with
  | some (.anchor name) => (some name, s.next)
  | _ => (none, s)

def tag? (s : Source) : Option (Option Tag × Source) :=
  match s.peek with
  | some (.tag t) => (t.resolve? s.handle).map fun t => (some t, s.next)
  | _ => some (none, s)

end Source

/-- An anchor and a tag, in any order. -/
structure Properties where
  anchor : Option String
  tag : Option Tag

/-- The anchor and the tag in front of a value. -/
def properties? (s : Source) : Option (Properties × Source) :=
  match s.anchor with
  | (some name, s) => s.tag?.map fun r => (⟨some name, r.1⟩, r.2)
  | (none, s) =>
    match s.tag? with
    | some (some t, s) => some (⟨s.anchor.1, some t⟩, s.anchor.2)
    | some (none, s) => some (⟨none, none⟩, s)
    | none => none

mutual

/-- The value that starts with the next token. Outside of brackets, it may be a collection by indentation;
behind a name, this may be a list whose marks stand in the column of the name. Only as many calls are made
as `fuel` says. -/
def value? (inBlock behindName : Bool) (s : Source) : Nat → Option (Value × Source)
  | 0 => none
  | fuel + 1 =>
    match s.peek with
    | some (.alias name) => (s.valueOf? name).map fun v => (v, s.next)
    | _ => do
      -- The anchor is open while its own value is read
      let number := s.anchors.length
      let (p, s) ← properties? s
      let (v, s) ← content? inBlock behindName p (s.openAnchor p.anchor) fuel
      some (v, s.setAnchor number p.anchor v)

/-- The value behind its anchor and its tag. -/
def content? (inBlock behindName : Bool) (p : Properties) (s : Source) : Nat → Option (Value × Source)
  | 0 => none
  | fuel + 1 =>
    -- An anchor or a tag may stand for a value by itself
    let nothing :=
      if p.anchor.isSome || p.tag.isSome then some (Value.ofScalar true p.tag "", s) else none
    match s.peek with
    | some (.scalar plain text) => some (Value.ofScalar plain p.tag text, s.next)
    | some .openList => listInBrackets? [] true s.next fuel
    | some .openTable => tableInBrackets? [] true s.next fuel
    | some .dash => if behindName then listBehindName? [] s fuel else nothing
    | some .listStart => if inBlock then list? [] s.next fuel else nothing
    | some .tableStart => if inBlock then table? [] s.next fuel else nothing
    | _ => nothing

/-- The value that starts with the next token, or nothing if the next token is one of `ends`. -/
def valueOrNull? (ends : List Token) (inBlock behindName : Bool) (s : Source) :
    Nat → Option (Value × Source)
  | 0 => none
  | fuel + 1 =>
    if s.isAt ends then some (.null, s) else value? inBlock behindName s fuel

/-- The value behind the colon that is next, or nothing if there is no colon. -/
def behindColon? (ends : List Token) (inBlock : Bool) (s : Source) : Nat → Option (Value × Source)
  | 0 => none
  | fuel + 1 =>
    if s.isAt [.value] then valueOrNull? ends inBlock inBlock s.next fuel else some (.null, s)

/-- The items of a list by indentation, behind those before them. -/
def list? (items : List Value) (s : Source) : Nat → Option (Value × Source)
  | 0 => none
  | fuel + 1 =>
    if s.isAt [.blockEnd] then some (.list items, s.next)
    else do
      let (v, s) ← valueOrNull? [.dash, .blockEnd] true false (← s.past? .dash) fuel
      list? (items ++ [v]) s fuel

/-- The items of a list whose marks stand in the column of its name. -/
def listBehindName? (items : List Value) (s : Source) : Nat → Option (Value × Source)
  | 0 => none
  | fuel + 1 =>
    if s.isAt [.dash] then do
      let (v, s) ← valueOrNull? [.dash, .key, .value, .blockEnd] true false s.next fuel
      listBehindName? (items ++ [v]) s fuel
    else some (.list items, s)

/-- The entries of a table by indentation, as names and values in turn. -/
def table? (said : List Value) (s : Source) : Nat → Option (Value × Source)
  | 0 => none
  | fuel + 1 =>
    if s.isAt [.blockEnd] then (Value.tableOf? said).map fun v => (v, s.next)
    else do
      let ends := [.key, .value, .blockEnd]
      let (k, s) ←
        if s.isAt [.key] then valueOrNull? ends true true s.next fuel
        else if s.isAt [.value] then some (.null, s)
        else none
      let (v, s) ← behindColon? ends true s fuel
      table? (said ++ [k, v]) s fuel

/-- The items of a list in brackets. -/
def listInBrackets? (items : List Value) (first : Bool) (s : Source) : Nat → Option (Value × Source)
  | 0 => none
  | fuel + 1 =>
    if s.isAt [.closeList] then some (.list items, s.next)
    else do
      let s ← if first then some s else s.past? .comma
      if s.isAt [.closeList] then some (.list items, s.next)
      else
        -- An item may be a table of one pair without brackets of its own
        let (v, s) ← if s.isAt [.key] then pair? s.next fuel else value? false false s fuel
        listInBrackets? (items ++ [v]) false s fuel

/-- A table of one pair, behind the mark of its name. -/
def pair? (s : Source) : Nat → Option (Value × Source)
  | 0 => none
  | fuel + 1 => do
    -- A token that takes the place of the name is skipped
    let (k, s) ←
      if s.isAt [.value, .comma, .closeList] then some (.null, s.next) else value? false false s fuel
    let (v, s) ← behindColon? [.comma, .closeList] false s fuel
    (Value.tableOf? [k, v]).map fun v => (v, s)

/-- The entries of a table in brackets, as names and values in turn. -/
def tableInBrackets? (said : List Value) (first : Bool) (s : Source) : Nat → Option (Value × Source)
  | 0 => none
  | fuel + 1 =>
    if s.isAt [.closeTable] then (Value.tableOf? said).map fun v => (v, s.next)
    else do
      let s ← if first then some s else s.past? .comma
      if s.isAt [.closeTable] then (Value.tableOf? said).map fun v => (v, s.next)
      else
        let ends := [.comma, .closeTable]
        -- A name may stand without a value
        let alone := !s.isAt [.key, .value]
        let (k, s) ←
          if alone then value? false false s fuel
          else if s.isAt [.value] then some (.null, s)
          else valueOrNull? (.value :: ends) false false s.next fuel
        let (v, s) ← if alone then some (.null, s) else behindColon? ends false s fuel
        tableInBrackets? (said ++ [k, v]) false s fuel

end

/-- Past the directives in front of a document. -/
def directives? (versioned : Bool) (handle : Option (String × String)) :
    List Token → Option Source
  -- There is at most one version, and only the last directive counts
  | .version :: ts => if versioned then none else directives? true none ts
  | .handle said :: ts => directives? versioned said ts
  | ts => some { tokens := ts, handle := handle }

/-- The mark at the end of a document is not part of the next one. -/
def pastEnds (ts : List Token) : List Token := ts.dropWhile (· == .documentEnd)

/-- A document with directives or an opening mark. -/
def explicit? (ts : List Token) (fuel : Nat) : Option (Value × Source) := do
  let s ← directives? false none ts
  let s ← s.past? .documentStart
  match s.peek with
  | none | some .documentStart | some .documentEnd | some .version | some (.handle _) =>
    some (.null, s)
  | _ => value? true false s fuel

/-- The one value of a text from its tokens; a text without any is an empty table. -/
def ofTokens? (ts : List Token) : Option Value :=
  let ts := pastEnds ts
  -- Every token takes a few calls at most
  let fuel := 8 * ts.length + 8
  let read? : Option (Value × Source) := match ts with
    | [] => some (.table [], { tokens := [] })
    | .version :: _ | .handle _ :: _ | .documentStart :: _ => explicit? ts fuel
    | _ => value? true false { tokens := ts } fuel
  match read? with
  | some (v, s) => if (pastEnds s.tokens).isEmpty then some v else none
  | none => none

/-- The one value of a text. -/
def document? (text : String) : Option Node :=
  ((Token.ofText? text).bind ofTokens?).bind Value.node?

end TelemetryGateway.Yaml
