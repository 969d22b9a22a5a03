import TelemetryGateway.Access.Header
import TelemetryGateway.Gateway.Refusal
import TelemetryGateway.Http.Target
import TelemetryGateway.Text.Letters

/-!
# HTTP messages

Requests and responses as the gateway sees them. Header names are compared without regard to case, and
of several headers with one name the first one counts.

## Main definitions

- `Request`: a request with its whole body
- `Request.header?`: the value of a header
- `Response`: a response
- `Response.ofRefusal`: the response that says why a request is turned away
-/

namespace TelemetryGateway.Http

open TelemetryGateway.Access (presented)
open TelemetryGateway.Gateway (Refusal)
open TelemetryGateway.Json (Value)
open TelemetryGateway.Text (lowercase)

/-- A request with its whole body. -/
structure Request where
  method : String
  /-- What the request is sent to. -/
  target : String
  headers : List (String × List UInt8)
  body : List UInt8

namespace Request

def path (r : Request) : String := targetPath r.target

/-- The first value of a header, by its name in small letters. -/
def header? (r : Request) (name : String) : Option (List UInt8) :=
  (r.headers.find? fun h => lowercase h.1 == name).map (·.2)

/-- What the client presents to prove itself. -/
def authorization? (r : Request) : Option String :=
  presented (r.header? "authorization")

end Request

/-- A response with its whole body. -/
structure Response where
  status : Nat
  headers : List (String × String) := []
  body : String := ""
deriving DecidableEq, Repr

namespace Response

def extend (r : Response) (headers : List (String × String)) : Response :=
  { r with headers := r.headers ++ headers }

/-- A response with a page of plain text. -/
def page (status : Nat) (text : String) : Response where
  status := status
  headers := [("content-type", "text/plain; charset=utf-8")]
  body := text

def json (status : Nat) (v : Value) : Response where
  status := status
  headers := [("content-type", "application/json")]
  body := v.text

/-- The request for credentials that goes with a refusal for want of them. -/
def challenge : Refusal → List (String × String)
  | .unauthorized _ => [("www-authenticate", "Basic realm=\"Restricted\"")]
  | _ => []

/-- The response that says why a request is turned away. -/
def ofRefusal (r : Refusal) : Response :=
  (json r.httpStatus (.object [("error", .string r.httpText)])).extend (challenge r)

end Response

end TelemetryGateway.Http
