import Dimensional.Quantity

/-!
Logarithms and circular functions.  Logarithms want a unitless positive number, sine, cosine and
tangent a unitless number or an angle; the inverse functions want a unitless number and give angles.
-/

namespace Dimensional.Quantity

def requireUnitless (op : Operation) (q : Quantity) : Except Failure PUnit :=
  if q.isUnitless then .ok ⟨⟩ else .error (.requiresUnitless op q.dimension)

def requireAngleOrUnitless (op : Operation) (q : Quantity) : Except Failure PUnit :=
  if q.isUnitless || q.isAngle then .ok ⟨⟩
  else .error (.requiresAngleOrUnitless op q.dimension)

/-- A value that is no number is refused as well. -/
def logarithm (op : Operation) (f : Float → Float) (q : Quantity) : Except Failure Quantity := do
  requireUnitless op q
  if 0.0 < q.value then return unitless (f q.value) else .error (.domain op q.value)

def ln (q : Quantity) : Except Failure Quantity :=
  q.logarithm .ln Float.log

def log2 (q : Quantity) : Except Failure Quantity :=
  q.logarithm .log2 Float.log2

def log10 (q : Quantity) : Except Failure Quantity :=
  q.logarithm .log10 Float.log10

def circular (op : Operation) (f : Float → Float) (q : Quantity) : Except Failure Quantity := do
  requireAngleOrUnitless op q
  return unitless (f q.value)

def sin (q : Quantity) : Except Failure Quantity :=
  q.circular .sin Float.sin

def cos (q : Quantity) : Except Failure Quantity :=
  q.circular .cos Float.cos

def tan (q : Quantity) : Except Failure Quantity :=
  q.circular .tan Float.tan

/-- The angle that `f` gives for a number from -1 to 1. -/
def arc (op : Operation) (f : Float → Float) (x : Float) : Except Failure Quantity :=
  if (-1.0 : Float) ≤ x ∧ x ≤ 1.0 then .ok ⟨f x, .angle⟩ else .error (.domain op x)

def arcsine (x : Float) : Except Failure Quantity :=
  arc .asin Float.asin x

def arccosine (x : Float) : Except Failure Quantity :=
  arc .acos Float.acos x

def arctangent (x : Float) : Quantity :=
  ⟨x.atan, .angle⟩

def asin (q : Quantity) : Except Failure Quantity := do
  requireUnitless .asin q
  arcsine q.value

def acos (q : Quantity) : Except Failure Quantity := do
  requireUnitless .acos q
  arccosine q.value

def atan (q : Quantity) : Except Failure Quantity := do
  requireUnitless .atan q
  return arctangent q.value

end Dimensional.Quantity
