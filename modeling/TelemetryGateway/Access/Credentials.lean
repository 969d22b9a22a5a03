import TelemetryGateway.Text.Base64
import TelemetryGateway.Text.Blank
import TelemetryGateway.Text.Octets
import TelemetryGateway.Text.Quoted

/-!
# Basic authentication

A client proves itself with a header value: the word `Basic`, a space, and the base64 text of its user
name, a colon and its password. The first colon separates the two, so passwords may hold colons.

## Main definitions

- `Credentials`: the user name and password that are expected
- `Denial`: why a header value is refused
- `Credentials.check`: the verdict on a header value
- `Credentials.header`: the header value that a user name and a password make
-/

namespace TelemetryGateway.Access

open TelemetryGateway.Text

/-- The user name and password that are expected. -/
structure Credentials where
  username : String
  password : String
deriving DecidableEq

/-- Why a header value is refused. -/
inductive Denial where
  | missingHeader
  | invalidScheme
  | invalidEncoding
  | malformedValue
  | invalidCredentials
deriving DecidableEq, Repr

def Denial.message : Denial → String
  | .missingHeader => "authorization header missing"
  | .invalidScheme => "invalid authorization header"
  | .invalidEncoding => "invalid base64 in authorization header"
  | .malformedValue => "invalid authorization value"
  | .invalidCredentials => "invalid credentials"

/-- What a header value starts with. -/
def scheme : List Char := "Basic ".toList

def colon : UInt8 := 0x3A

/-- The bytes before and after the first colon. -/
def splitAtColon (bytes : List UInt8) : Option (List UInt8 × List UInt8) :=
  match bytes.dropWhile (· != colon) with
  | [] => none
  | _ :: password => some (bytes.takeWhile (· != colon), password)

/-- What follows the scheme in a header value. -/
def afterScheme? (header : String) : Option (List Char) :=
  if scheme.isPrefixOf header.toList then some (header.toList.drop scheme.length) else none

namespace Credentials

/-- The user name and password are those expected, byte by byte. -/
def accepts (c : Credentials) (username password : List UInt8) : Bool :=
  username == utf8 c.username && password == utf8 c.password

/-- The verdict on a header value. -/
def check (c : Credentials) (header : Option String) : Except Denial Unit :=
  match header with
  | none => .error .missingHeader
  | some header =>
    match afterScheme? header with
    | none => .error .invalidScheme
    | some encoded =>
      match Base64.decodeChars (trimChars encoded) with
      | none => .error .invalidEncoding
      | some bytes =>
        match splitAtColon bytes with
        | none => .error .malformedValue
        | some (username, password) =>
          if c.accepts username password then .ok () else .error .invalidCredentials

def header (username password : String) : String :=
  String.ofList (scheme ++ Base64.encodeChars (utf8 (username ++ ":" ++ password)))

/-- What stands for a password in texts. -/
def redacted : String := quoted "<redacted>"

/-- The text of credentials, which keeps the password to itself. -/
def display (c : Credentials) : String :=
  "Credentials \x7b username: " ++ quoted c.username ++ ", password: " ++ redacted ++ " \x7d"

end Credentials

end TelemetryGateway.Access
