import TelemetryGateway.Http.Message
import TelemetryGateway.Settings.Basic

/-!
# Requests from other sites

Browsers let a page of one site call another only if the other one's answers say so. A policy names the
sites, methods and headers that are allowed. It answers the requests by which browsers ask beforehand,
and adds what browsers want to know to all other answers.

## Main definitions

- `Policy`: what is allowed
- `Policy.ofSettings`: the policy of settings, if they ask for one and name nothing impossible
- `Policy.grants`: the headers that go with every answer
- `Policy.preflight`: the headers that answer a question beforehand
-/

namespace TelemetryGateway.Http

open TelemetryGateway.Text (lowercase trim uppercase utf8)

/-- The sites that are allowed. -/
inductive Origins where
  | any
  | listed (origins : List String)
deriving DecidableEq, Repr

/-- What is allowed. -/
structure Policy where
  origins : Origins
  /-- Methods in capital letters. -/
  methods : List String
  /-- Header names in small letters. -/
  headers : List String
deriving DecidableEq, Repr

/-- Why settings make no policy. -/
inductive PolicyFlaw where
  | badOrigin (entry : String)
  | badMethod (entry : String)
  | badHeader (entry : String)
  /-- One of several sites turns out to stand for all of them once blanks are taken away. -/
  | wildcardAmongOrigins
deriving DecidableEq, Repr

/-- The wording of a flaw; the last one comes without words. -/
def PolicyFlaw.message? : PolicyFlaw → Option String
  | .badOrigin entry => some ("invalid CORS origin: " ++ entry)
  | .badMethod entry => some ("invalid CORS method: " ++ entry)
  | .badHeader entry => some ("invalid CORS header: " ++ entry)
  | .wildcardAmongOrigins => none

def defaultMethods : List String := ["GET", "POST", "PUT", "DELETE", "OPTIONS"]

def defaultHeaders : List String := ["Content-Type", "Authorization", "X-Requested-With"]

/-- The entry that stands for all sites. -/
def wildcard : String := "*"

/-- A character that header values may hold: no control character but the tab. -/
def isHeaderChar (c : Char) : Bool :=
  (0x20 ≤ c.toNat && c.toNat ≠ 0x7F) || c = '\t'

/-- A character that the names of methods and headers may hold. -/
def isTokenChar (c : Char) : Bool :=
  c.isAlphanum || "!#$%&'*+-.^_|~".toList.contains c || c.toNat = 0x60

def isToken (s : String) : Bool :=
  !s.isEmpty && s.toList.all isTokenChar

def maxHeaderName : Nat := 65535

/-- A site, without the blanks around it. -/
def readOrigin (entry : String) : Except PolicyFlaw String :=
  if (trim entry).toList.all isHeaderChar then .ok (trim entry) else .error (.badOrigin entry)

/-- A method in capital letters, without the blanks around it. -/
def readMethod (entry : String) : Except PolicyFlaw String :=
  let name := uppercase (trim entry)
  if isToken name then .ok name else .error (.badMethod entry)

/-- The name of a header in small letters, without the blanks around it. -/
def readHeader (entry : String) : Except PolicyFlaw String :=
  let name := lowercase (trim entry)
  if isToken name ∧ name.length ≤ maxHeaderName then .ok name else .error (.badHeader entry)

/-- The sites of a list: all of them if it is empty or has the entry that says so. -/
def readOrigins (entries : List String) : Except PolicyFlaw Origins :=
  if entries.isEmpty || entries.contains wildcard then .ok .any
  -- The entry counts only as it stands; with blanks around it, it is a fault
  else do
    let origins ← entries.mapM readOrigin
    if origins.contains wildcard then .error .wildcardAmongOrigins else .ok (.listed origins)

/-- A list, or a default for the empty one. -/
def orElseList (entries fallback : List String) : List String :=
  if entries.isEmpty then fallback else entries

namespace Policy

/-- The policy of settings that ask for one. -/
def create (s : Settings.Cors) : Except PolicyFlaw Policy := do
  let origins ← readOrigins s.allowedOrigins
  let methods ← (orElseList s.allowedMethods defaultMethods).mapM readMethod
  let headers ← (orElseList s.allowedHeaders defaultHeaders).mapM readHeader
  pure ⟨origins, methods, headers⟩

/-- The policy of settings, if they ask for one. -/
def ofSettings (s : Settings.Cors) : Except PolicyFlaw (Option Policy) :=
  if s.enabled then (create s).map some else .ok none

/-- What is said of the site that a request comes from. -/
def allowOrigin? (p : Policy) (r : Request) : Option String :=
  match p.origins with
  | .any => some wildcard
  -- Sites are compared byte by byte
  | .listed origins => origins.find? fun origin => r.header? "origin" == some (utf8 origin)

/-- The parts of a request on which answers depend. -/
def vary : String :=
  "origin, access-control-request-method, access-control-request-headers"

/-- A request asks whether sites may call from the open internet into a private network. -/
def asksPrivateNetwork (r : Request) : Bool :=
  r.header? "access-control-request-private-network" == some (utf8 "true")

/-- The headers that go with every answer. -/
def grants (p : Policy) (r : Request) : List (String × String) :=
  ("vary", vary) ::
    ((p.allowOrigin? r).map fun origin => ("access-control-allow-origin", origin)).toList ++
    if asksPrivateNetwork r then [("access-control-allow-private-network", "true")] else []

/-- The headers that answer a question beforehand. -/
def preflight (p : Policy) (r : Request) : List (String × String) :=
  p.grants r ++
    [ ("access-control-allow-methods", ",".intercalate p.methods),
      ("access-control-allow-headers", ",".intercalate p.headers) ]

end Policy

end TelemetryGateway.Http
