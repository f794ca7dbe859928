import Dimensional.Quantity

/-!
Sums, products and quotients.  Sums want equal dimensions; products and quotients fail only when an
exponent leaves its range.
-/

namespace Dimensional.Quantity

def add (a b : Quantity) : Except Failure Quantity := do
  sameDimension a b
  return { a with value := a.value + b.value }

def sub (a b : Quantity) : Except Failure Quantity := do
  sameDimension a b
  return { a with value := a.value - b.value }

/-- A quantity whose dimension was computed, unless its exponents leave their range. -/
def inRange (op : Operation) (operand : Dimension) (value : Float) (dimension : Option Dimension) :
    Except Failure Quantity :=
  match dimension with
  | some d => .ok ⟨value, d⟩
  | none => .error (.exponentOverflow op operand)

def mul (a b : Quantity) : Except Failure Quantity :=
  inRange .mul a.dimension (a.value * b.value) (a.dimension.mul? b.dimension)

def div (a b : Quantity) : Except Failure Quantity :=
  inRange .div a.dimension (a.value / b.value) (a.dimension.div? b.dimension)

def mulScalar (q : Quantity) (s : Float) : Quantity :=
  { q with value := q.value * s }

def divScalar (q : Quantity) (s : Float) : Quantity :=
  { q with value := q.value / s }

/-- The number divided by the quantity. -/
def scalarDiv (s : Float) (q : Quantity) : Quantity :=
  ⟨s / q.value, q.dimension.recip⟩

def neg (q : Quantity) : Quantity :=
  { q with value := -q.value }

def abs (q : Quantity) : Quantity :=
  { q with value := q.value.abs }

end Dimensional.Quantity
