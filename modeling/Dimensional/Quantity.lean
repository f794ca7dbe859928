import Dimensional.Units.Standard
import Dimensional.Units.Expression

/-!
Quantities: a number in base units together with its dimension, and the text of both.
-/

namespace Dimensional

structure Quantity where
  value : Float
  dimension : Dimension

namespace Quantity

def unitless (value : Float) : Quantity :=
  ⟨value, .unitless⟩

instance : Inhabited Quantity := ⟨unitless 0.0⟩

def ofUnit (value : Float) (unit : String) : Except Failure Quantity := do
  let m ← Units.Registry.standard.parse unit
  return ⟨value * m.scale, m.dimension⟩

def isUnitless (q : Quantity) : Bool :=
  q.dimension.isUnitless

def isAngle (q : Quantity) : Bool :=
  q.dimension.isAngle

def sameDimension (a b : Quantity) : Except Failure PUnit :=
  if a.dimension = b.dimension then .ok ⟨⟩
  else .error (.dimensionMismatch a.dimension b.dimension)

def valueIn (q : Quantity) (unit : String) : Except Failure Float := do
  let m ← Units.Registry.standard.parse unit
  if m.dimension = q.dimension then return q.value / m.scale
  else .error (.dimensionMismatch q.dimension m.dimension)

/-- With a precision, that many fraction digits; else the fewest digits that read back. -/
def display (q : Quantity) (precision : Option Nat) : List Char :=
  let number := match precision with
    | some places => Number.fixed places q.value
    | none => Number.plain.render q.value
  number ++ ' ' :: q.dimension.display

def text (q : Quantity) : String :=
  String.ofList (q.display none)

end Quantity

end Dimensional
