import TelemetryGateway.Text.Octets

/-!
# Header values

A header value is a byte string. It is a text if it holds nothing but visible ASCII characters, blanks
and tabs.

## Main definitions

- `headerText?`: the text of a header value
- `presented`: what a client presents to prove itself
-/

namespace TelemetryGateway.Access

open TelemetryGateway.Text (ofUtf8?)

/-- A byte that stands for a character in a header: a visible one, a blank or a tab. -/
def isHeaderText (b : UInt8) : Bool :=
  (0x20 ≤ b && b < 0x7F) || b == 0x09

def headerText? (value : List UInt8) : Option String :=
  if value.all isHeaderText then ofUtf8? value else none

/-- What a client presents to prove itself, if it presents anything; a value that is no text counts as
the empty one. -/
def presented (value : Option (List UInt8)) : Option String :=
  value.map fun v => (headerText? v).getD ""

end TelemetryGateway.Access
