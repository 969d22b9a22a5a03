/-!
# Where settings are

The file that a path names. The path may leave out the ending of its last name, and then slashes behind
that name and steps to the place itself do not count. A file whose name has another ending holds no
settings.

## Main definitions

- `components`, `namesFile`: the names in a path, and whether it can be the path of a file
- `hasYamlEnding`, `completions`: the path of a YAML file, and the ones that a path may stand for
- `settingsText?`: the text of the settings at a path
-/

namespace TelemetryGateway.Settings

/-- The name of the place itself. -/
def here : List Char := ['.']

/-- The name of the place above. -/
def above : List Char := ['.', '.']

/-- The names in a path. Empty ones and steps to the place itself lead nowhere. -/
def components (path : String) : List (List Char) :=
  (path.toList.splitOn '/').filter fun name => name ≠ [] && name ≠ here

/-- A path ends in a name, which may be that of a file. -/
def namesFile (path : String) : Bool :=
  ((path.toList.splitOn '/').getLast?).any fun name => name ≠ [] && name ≠ here && name ≠ above

/-- Two paths lead to the same file, if the same place is the start of both. -/
def sameFile (a b : String) : Bool :=
  namesFile a && namesFile b && a.startsWith "/" == b.startsWith "/" && components a == components b

def yamlEndings : List String := [".yaml", ".yml"]

/-- The last name in a path has one of the endings behind something else. -/
def hasYamlEnding (path : String) : Bool :=
  let name := ((path.toList.splitOn '/').getLast?).getD []
  yamlEndings.any fun e => e.toList.isSuffixOf name && e.length < name.length

/-- Backwards, a path without the slashes and the steps to the place itself at its end. -/
def dropEmptySteps : List Char → List Char
  | '/' :: cs => dropEmptySteps cs
  | '.' :: '/' :: cs => dropEmptySteps cs
  | cs => cs

/-- The paths of YAML files that a path may stand for when there is no file of its own. -/
def completions (path : String) : List String :=
  let stem := String.ofList (dropEmptySteps path.toList.reverse).reverse
  if namesFile stem then yamlEndings.map (stem ++ ·) else []

/-- A text without the mark of its encoding in front. -/
def withoutMark (text : String) : String :=
  match text.toList with
  | '\ufeff' :: cs => String.ofList cs
  | _ => text

def settingsText? (file? : String → Option String) (path : String) : Option String :=
  let text? := match file? path with
    | some text => if hasYamlEnding path then some text else none
    | none => (completions path).findSome? file?
  text?.map withoutMark

end TelemetryGateway.Settings
