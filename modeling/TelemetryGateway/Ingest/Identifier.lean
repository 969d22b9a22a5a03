import TelemetryGateway.Text.Hex

/-!
# Identifiers

Installations and journeys are named by universally unique identifiers of version 7: sixteen bytes, of
which the seventh starts with the version and the ninth with the variant.

## Main definitions

- `IdentifierField`: what an identifier names
- `IdentifierError`: why bytes are no identifier
- `checkIdentifier`: the verdict on bytes
- `hyphenated`: the usual text of an identifier
-/

namespace TelemetryGateway.Ingest

open TelemetryGateway.Text

/-- The fields that hold identifiers. -/
inductive IdentifierField where
  | installation
  | journey
deriving DecidableEq, Repr

def IdentifierField.name : IdentifierField → String
  | .installation => "installation_id"
  | .journey => "journey_id"

/-- The text of sixteen bytes: groups of eight, four, four, four and twelve digits. -/
def hyphenated (bytes : List UInt8) : String :=
  let digits := bytes.flatMap Hex.ofByte
  let group (start length : Nat) := (digits.drop start).take length
  String.ofList (group 0 8 ++ '-' :: group 8 4 ++ '-' :: group 12 4 ++ '-' :: group 16 4 ++
    '-' :: group 20 12)

/-- Why bytes are no identifier. -/
inductive IdentifierError where
  | missing (field : IdentifierField)
  | invalidLength (field : IdentifierField) (length : Nat)
  | wrongVersion (field : IdentifierField) (version : Nat) (bytes : List UInt8)
  | invalidVariant (field : IdentifierField)
deriving DecidableEq, Repr

namespace IdentifierError

def field : IdentifierError → IdentifierField
  | .missing f | .invalidLength f _ | .wrongVersion f _ _ | .invalidVariant f => f

def message : IdentifierError → String
  | .missing f => f.name ++ " is required"
  | .invalidLength f length => f.name ++ " must be 16 bytes, got " ++ toString length
  | .wrongVersion f version bytes =>
    f.name ++ " must be UUID v7, got version " ++ toString version ++ " (UUID: " ++
      hyphenated bytes ++ ")"
  | .invalidVariant f => f.name ++ " has invalid UUID variant"

end IdentifierError

/-- The version that an identifier states: the high half of its seventh byte. -/
def versionOf (bytes : List UInt8) : Nat :=
  (bytes.getD 6 0).toNat / 16

/-- The top two bits of the ninth byte are those of the standard variant. -/
def standardVariant (bytes : List UInt8) : Bool :=
  (bytes.getD 8 0).toNat / 64 = 2

/-- Checks that bytes are an identifier of version 7. -/
def checkIdentifier (field : IdentifierField) (bytes : List UInt8) : Except IdentifierError Unit :=
  if bytes.isEmpty then .error (.missing field)
  else if bytes.length ≠ 16 then .error (.invalidLength field bytes.length)
  else if versionOf bytes ≠ 7 then .error (.wrongVersion field (versionOf bytes) bytes)
  else if standardVariant bytes then .ok ()
  else .error (.invalidVariant field)

end TelemetryGateway.Ingest
