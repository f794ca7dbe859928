import Dimensional.Quantity

/-!
Comparisons.  Quantities of different dimensions are not unequal: comparing them is refused.
-/

namespace Dimensional.Quantity

inductive Comparison where
  | equal
  | notEqual
  | less
  | lessEqual
  | greater
  | greaterEqual
deriving DecidableEq, Repr

namespace Comparison

def holds : Comparison → Float → Float → Bool
  | equal, x, y => x == y
  | notEqual, x, y => x != y
  | less, x, y => x < y
  | lessEqual, x, y => x ≤ y
  | greater, x, y => y < x
  | greaterEqual, x, y => y ≤ x

/-- The comparison that says the same with its sides exchanged. -/
def mirrored : Comparison → Comparison
  | less => greater
  | lessEqual => greaterEqual
  | greater => less
  | greaterEqual => lessEqual
  | c => c

end Comparison

def test (c : Comparison) (a b : Quantity) : Except Failure Bool := do
  sameDimension a b
  return c.holds a.value b.value

/-- The order of the values, or none if one of them is no number. -/
def compare (a b : Quantity) : Except Failure (Option Ordering) := do
  sameDimension a b
  return if a.value < b.value then some .lt
    else if a.value == b.value then some .eq
    else if b.value < a.value then some .gt
    else none

end Dimensional.Quantity
