import TelemetryGateway.Json.Numeral

/-!
# JSON trees

What a JSON text says, before anybody asks for a certain kind of value. A tree keeps members in their
order, repeated names included, and numbers as they are written. A string that no text spells, for
bad UTF-8 or half a surrogate pair, is well-formed JSON all the same: it only matters to a reader who
wants to keep it.

## Main definitions

- `Tree`: a JSON value as read
- `Reading`: as much of a tree as a text gives, and whether the text is JSON from end to end
-/

namespace TelemetryGateway.Json

/-- A JSON value as read from a text. -/
inductive Tree where
  | null
  | bool (b : Bool)
  | number (n : Numeral)
  | string (s : String)
  /-- A string with bytes that are not UTF-8, or with half of a surrogate pair. -/
  | unreadable
  | array (items : List Tree)
  /-- The members of an object; a name that cannot be kept is missing. -/
  | object (members : List (Option String × Tree))
deriving Inhabited

abbrev Member := Option String × Tree

/-- What a text says. -/
structure Reading where
  /-- The value, up to the first fault: what had not ended by then is left out, and whatever was open
  is closed there. -/
  tree : Tree
  /-- The text holds this one value and blanks, and nothing else. -/
  complete : Bool

end TelemetryGateway.Json
