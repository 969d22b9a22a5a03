import TelemetryGateway.Text.Octets

/-!
# Text for terminals

A terminal takes some characters for commands: control characters, and sequences that an escape character
opens. A text that is not meant for a terminal goes without them. A tab, a break, a form feed or a carriage
return within a short sequence lets what follows show up again; what follows within a longer one is lost
up to its own terminator or the next escape character.

## Main definitions

- `bold`: a text that a terminal shows in bold
- `Sequence`, `Sequence.next`: the part of a sequence that a character stands in
- `withoutCommands`: a text without commands
-/

namespace TelemetryGateway.Text

/-- The character that opens a sequence. -/
def escapeChar : Char := '\x1b'

/-- A text that a terminal shows in bold. -/
def bold (s : String) : String := "\x1b[1m" ++ s ++ "\x1b[0m"

/-- The part of a sequence that a character stands in. -/
inductive Sequence where
  /-- No sequence is open. -/
  | outside
  /-- Behind the escape character. -/
  | opened
  /-- Behind the escape character and some punctuation. -/
  | punctuated
  /-- A command with parameters. -/
  | parameters
  /-- The head of a device command, before its parameters. -/
  | deviceStart
  /-- The parameters of a device command. -/
  | deviceParameters
  /-- Punctuation in the head of a device command. -/
  | devicePunctuated
  /-- The body of a device command, or a text for the terminal itself. -/
  | body
  /-- A command to the operating system. -/
  | system
deriving DecidableEq, Repr

namespace Sequence

/-- A blank of ASCII that is a control character. -/
def isControlBlank (c : Char) : Bool :=
  c = '\t' || c = '\n' || c = '\x0c' || c = '\r'

/-- A character of ASCII that shows, or moves on the line or the page. -/
def isShown (c : Char) : Bool :=
  isControlBlank c || (0x20 ≤ c.toNat && c.toNat ≠ 0x7F)

/-- A character that ends a sequence whatever it is. -/
def isCancel (c : Char) : Bool := c.toNat = 0x18 || c.toNat = 0x1A

/-- The code of a character lies in a range. -/
def within (c : Char) (least greatest : Nat) : Bool := least ≤ c.toNat && c.toNat ≤ greatest

/-- Punctuation within a sequence. -/
def isPunctuation (c : Char) : Bool := within c 0x20 0x2F

/-- A character that ends a sequence by being its last one. -/
def isFinal (c : Char) : Bool := within c 0x40 0x7E

/-- A character beyond ASCII has the byte in it that ends the text for a terminal. -/
def hasTerminator (c : Char) : Bool := (utf8 (String.singleton c)).contains 0x9C

/-- The part of a sequence behind a character that is taken for a piece of it. -/
def next (s : Sequence) (c : Char) : Sequence :=
  if c = escapeChar then .opened
  else if isCancel c then .outside
  else match s with
    | .outside => .outside
    | .opened =>
      if c = '[' then .parameters
      else if c = ']' then .system
      else if c = 'P' then .deviceStart
      else if c = 'X' ∨ c = '^' ∨ c = '_' then .body
      else if isPunctuation c then .punctuated
      else if within c 0x30 0x7E then .outside
      else .opened
    | .punctuated => if within c 0x30 0x7E then .outside else .punctuated
    | .parameters => if isFinal c then .outside else .parameters
    | .deviceStart =>
      if isPunctuation c then .devicePunctuated
      else if within c 0x30 0x3F then .deviceParameters
      else if isFinal c then .body
      else .deviceStart
    | .deviceParameters =>
      if isPunctuation c then .devicePunctuated
      else if within c 0x3C 0x7E then .body
      else .deviceParameters
    | .devicePunctuated => if within c 0x30 0x7E then .body else .devicePunctuated
    | .body => if hasTerminator c then .outside else .body
    | .system => if c = '\x07' then .outside else .system

/-- A control blank shows within this part of a sequence. -/
def showsBlanks : Sequence → Bool
  | .outside | .opened | .punctuated | .parameters => true
  | _ => false

end Sequence

/-- The characters of a text that are no commands, from within a sequence. While `showing`, what is in the
sequence shows up to the next control character. -/
def shownFrom (s : Sequence) (showing : Bool) : List Char → List Char
  | [] => []
  | c :: cs =>
    if 0x80 ≤ c.toNat then
      if showing || s = .outside then c :: shownFrom .outside true cs
      else shownFrom (s.next c) false cs
    else if showing || s = .outside then
      if Sequence.isShown c then c :: shownFrom s true cs else shownFrom (s.next c) false cs
    else if s.showsBlanks && Sequence.isControlBlank c then c :: shownFrom s true cs
    else shownFrom (s.next c) false cs

/-- A text without commands. -/
def withoutCommands (s : String) : String :=
  String.ofList (shownFrom .outside true s.toList)

end TelemetryGateway.Text
