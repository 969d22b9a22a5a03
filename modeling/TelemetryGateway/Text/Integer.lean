/-!
# Integers in text

A run of ASCII digits with an optional sign. Leading zeros are fine, blanks and separators are not,
and a value outside the range asked for is no integer of that range. Digits are decimal unless a base is
given.

## Main definitions

- `Integer.digits?`: the value of a non-empty run of digits
- `Integer.unsigned?`: digits with an optional `+`, up to a bound
- `Integer.signed?`: digits with an optional sign, within two bounds
- `Integer.digitsIn?`, `Integer.int64In?`: digits in a base, without and with a sign
-/

namespace TelemetryGateway.Text.Integer

def digit? (c : Char) : Option Nat :=
  if 48 ≤ c.toNat ∧ c.toNat ≤ 57 then some (c.toNat - 48) else none

/-- The value of the digits after a value `acc`, if there are only digits. -/
def digitsFrom? (acc : Nat) : List Char → Option Nat
  | [] => some acc
  | c :: cs => (digit? c).bind fun d => digitsFrom? (acc * 10 + d) cs

/-- The value of a non-empty run of digits. -/
def digits? : List Char → Option Nat
  | [] => none
  | cs => digitsFrom? 0 cs

/-- The value of digits behind an optional `+`, if it is at most `max`. -/
def unsigned? (max : Nat) (cs : List Char) : Option Nat :=
  let value? := match cs with
    | '+' :: rest => digits? rest
    | _ => digits? cs
  value?.filter (· ≤ max)

/-- The value of digits behind an optional sign, if it lies between `min` and `max`. -/
def signed? (min max : Int) (cs : List Char) : Option Int :=
  let value? : Option Int := match cs with
    | '+' :: rest => (digits? rest).map Int.ofNat
    | '-' :: rest => (digits? rest).map fun n => -Int.ofNat n
    | _ => (digits? cs).map Int.ofNat
  value?.filter fun n => min ≤ n ∧ n ≤ max

def minInt64 : Int := -0x8000000000000000

def maxInt64 : Int := 0x7FFFFFFFFFFFFFFF

def maxUInt64 : Nat := 0xFFFFFFFFFFFFFFFF

/-- The value of a digit in a base; letters of either case follow on nine. -/
def digitIn? (base : Nat) (c : Char) : Option Nat :=
  let n := c.toNat
  let value :=
    if 48 ≤ n ∧ n ≤ 57 then n - 48
    else if 97 ≤ n ∧ n ≤ 122 then n - 87
    else if 65 ≤ n ∧ n ≤ 90 then n - 55
    else base
  if value < base then some value else none

/-- The value of a non-empty run of digits in a base. -/
def digitsIn? (base : Nat) (cs : List Char) : Option Nat :=
  if cs = [] then none
  else cs.foldlM (fun n c => (digitIn? base c).map (base * n + ·)) 0

/-- An integer of sixty-four bits in a base, with an optional sign. -/
def int64In? (base : Nat) (cs : List Char) : Option Int :=
  let value? : Option Int := match cs with
    | '+' :: rest => (digitsIn? base rest).map Int.ofNat
    | '-' :: rest => (digitsIn? base rest).map fun n => -Int.ofNat n
    | _ => (digitsIn? base cs).map Int.ofNat
  value?.filter fun n => minInt64 ≤ n ∧ n ≤ maxInt64

end TelemetryGateway.Text.Integer
