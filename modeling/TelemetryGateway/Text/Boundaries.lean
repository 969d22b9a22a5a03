/-!
# Tables of a property

A property of code points as the sorted list of places where it changes: it does not hold up to the
first of them, holds from there up to the second, and so on in turn.

## Main definitions

- `countAtMost`: the entries of a sorted array that are at most a number
- `holdsBy`: the property as a test
-/

namespace TelemetryGateway.Text

/-- The count of entries of the sorted array `a` between `lo` and `hi` that are at most `n`, plus
`lo`, by halving the interval. -/
def countAtMost (a : Array Nat) (n : Nat) (lo hi : Nat) : Nat :=
  if lo < hi then
    let mid := (lo + hi) / 2
    if a.getD mid 0 ≤ n then countAtMost a n (mid + 1) hi else countAtMost a n lo mid
  else lo
termination_by hi - lo

/-- The property that changes at the entries of a sorted array holds for a number. -/
def holdsBy (boundaries : Array Nat) (n : Nat) : Bool :=
  countAtMost boundaries n 0 boundaries.size % 2 == 1

end TelemetryGateway.Text
