import Dimensional.Quantity.Arithmetic
import Dimensional.Quantity.Comparison
import Dimensional.Quantity.Power
import Dimensional.Quantity.Transcendental

/-!
The operations on quantities as data, for whoever takes them from elsewhere.
-/

namespace Dimensional.Quantity

inductive Binary where
  | add
  | sub
  | mul
  | div
deriving DecidableEq, Repr

def Binary.apply : Binary → Quantity → Quantity → Except Failure Quantity
  | add => Quantity.add
  | sub => Quantity.sub
  | mul => Quantity.mul
  | div => Quantity.div

inductive Unary where
  | sqrt
  | neg
  | abs
  | ln
  | log2
  | log10
  | sin
  | cos
  | tan
  | asin
  | acos
  | atan
deriving DecidableEq, Repr

def Unary.apply : Unary → Quantity → Except Failure Quantity
  | sqrt, q => q.sqrt
  | neg, q => .ok q.neg
  | abs, q => .ok q.abs
  | ln, q => q.ln
  | log2, q => q.log2
  | log10, q => q.log10
  | sin, q => q.sin
  | cos, q => q.cos
  | tan, q => q.tan
  | asin, q => q.asin
  | acos, q => q.acos
  | atan, q => q.atan

/-- Operations with a plain number; `divide` has the number on the left. -/
inductive Scalar where
  | mul
  | div
  | divide
deriving DecidableEq, Repr

def Scalar.apply : Scalar → Quantity → Float → Quantity
  | mul, q, s => q.mulScalar s
  | div, q, s => q.divScalar s
  | divide, q, s => scalarDiv s q

/-- Functions from plain numbers to angles. -/
inductive Arc where
  | asin
  | acos
  | atan
deriving DecidableEq, Repr

def Arc.apply : Arc → Float → Except Failure Quantity
  | asin, x => arcsine x
  | acos, x => arccosine x
  | atan, x => .ok (arctangent x)

end Dimensional.Quantity
