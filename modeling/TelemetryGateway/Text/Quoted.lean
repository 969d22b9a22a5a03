import TelemetryGateway.Text.Printable

/-!
# Quoted text

A text between double quotes, in which a reader can tell every character. The quote and the backslash
are written behind a backslash, tab, carriage return, line feed and NUL have short escapes, and every
other character without a glyph of its own is written as its code point, such as `\u{301}`.

## Main definitions

- `Quoted.encode`: the characters between the quotes
- `quoted`: the whole text with its quotes
-/

namespace TelemetryGateway.Text

namespace Quoted

/-- One character between the quotes. -/
def encodeChar (c : Char) : List Char :=
  if c = '"' then ['\\', '"']
  else if c = '\\' then ['\\', '\\']
  else if c = '\t' then ['\\', 't']
  else if c = '\r' then ['\\', 'r']
  else if c = '\n' then ['\\', 'n']
  else if c.toNat = 0 then ['\\', '0']
  else if isPlain c then [c]
  else ['\\', 'u', Char.ofNat 0x7B] ++ Nat.toDigits 16 c.toNat ++ [Char.ofNat 0x7D]

/-- The characters between the quotes. -/
def encode (cs : List Char) : List Char :=
  cs.flatMap encodeChar

end Quoted

/-- A text between double quotes, in which every character shows. -/
def quoted (s : String) : String :=
  String.ofList ('"' :: Quoted.encode s.toList ++ ['"'])

end TelemetryGateway.Text
