/-
# Runs of code points

A property of characters is kept as a list of runs: code points that follow one another at a
fixed distance.  The tables of `ClassGen.Text.Alphabetic`, `ClassGen.Text.Numeric` and
`ClassGen.Text.Case` are lists of runs in ascending order.
-/

namespace ClassGen.Text

/-- The code points `first`, `first + step`, `first + 2 * step`, … up to `last`. -/
structure Run where
  /-- The least code point of the run. -/
  first : Nat
  /-- The greatest code point of the run. -/
  last : Nat
  /-- The distance between neighbours. -/
  step : Nat
deriving DecidableEq, Repr

namespace Run

/-- Does the run hold the code point `n`? -/
def contains (r : Run) (n : Nat) : Bool :=
  decide (r.first ≤ n) && decide (n ≤ r.last) && (n - r.first) % r.step == 0

/-- Does some run of the list hold the code point `n`? -/
def covers (runs : List Run) (n : Nat) : Bool :=
  runs.any fun r => r.contains n

end Run

end ClassGen.Text
