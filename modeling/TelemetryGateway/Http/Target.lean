/-!
# Targets of requests

What a request is sent to: a path with an optional query, the full address of a path, an authority, or a
star for the whole server.

## Main definitions

- `targetPath`: the path of a target
-/

namespace TelemetryGateway.Http

def isSchemeChar (c : Char) : Bool :=
  c.isAlphanum || c = '+' || c = '-' || c = '.' || c = '~'

/-- What stands behind the scheme of an address and two slashes. -/
def behindScheme? (target : List Char) : Option (List Char) :=
  match target.dropWhile isSchemeChar with
  | ':' :: '/' :: '/' :: rest => some rest
  | _ => none

/-- A character that ends the authority of an address. -/
def endsAuthority (c : Char) : Bool := c = '/' || c = '?' || c = '#'

def endsPath (c : Char) : Bool := c = '?' || c = '#'

/-- A path leads from the root. -/
def isRooted (path : String) : Bool := path.toList.head? = some '/'

/-- The path of a target, without a query. That of an authority alone is empty, and an address without a
path has that of the root. -/
def targetPath (target : String) : String :=
  let cs := target.toList
  let path := match behindScheme? cs with
    | some rest =>
      match (rest.dropWhile (!endsAuthority ·)).takeWhile (!endsPath ·) with
      | [] => ['/']
      | path => path
    | none =>
      if target = "*" || isRooted target then cs.takeWhile (!endsPath ·) else []
  String.ofList path

end TelemetryGateway.Http
