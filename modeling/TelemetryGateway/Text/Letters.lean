/-!
# Letter case

ASCII letters in one case. All other characters stay as they are.

## Main definitions

- `lowercase`, `uppercase`: a text in small or in capital letters
-/

namespace TelemetryGateway.Text

/-- Capital ASCII letters made small. -/
def lowercase (s : String) : String :=
  String.ofList (s.toList.map Char.toLower)

/-- Small ASCII letters made capital. -/
def uppercase (s : String) : String :=
  String.ofList (s.toList.map Char.toUpper)

end TelemetryGateway.Text
