import Dimensional.Number.Power
import Dimensional.Quantity.Arithmetic

/-!
Powers and square roots.  A unitless quantity takes any exponent; the dimension of another must
come out with integer exponents unless the exponent itself is an integer.
-/

namespace Dimensional.Quantity

/-- Exponents of 32 bits multiply repeatedly. -/
def valuePower (value : Float) (n : Int) : Float :=
  if Number.isShortInt n then Number.intPower value n
  else Number.realPower value (Float.ofInt n)

def intPower (q : Quantity) (n : Int) : Except Failure Quantity :=
  inRange .powi q.dimension (valuePower q.value n) (q.dimension.power? n)

def realPower (q : Quantity) (exponent : Float) : Except Failure Quantity :=
  if q.isUnitless then .ok { q with value := Number.realPower q.value exponent }
  else
    let nonIntegral := Failure.nonIntegralDimension .powf q.dimension exponent
    match Number.smallFraction? exponent with
    | none => .error nonIntegral
    | some r =>
        if r.den = 1 then q.intPower r.num
        else
          match q.dimension.scale? r with
          | none => .error (.exponentOverflow .powf q.dimension)
          | some d =>
              if d.isIntegral then .ok ⟨Number.realPower q.value exponent, d⟩
              else .error nonIntegral

/-- The dimension is tested before the value. -/
def sqrt (q : Quantity) : Except Failure Quantity :=
  match (q.dimension.scale? (1 / 2)).filter (·.isIntegral) with
  | none => .error (.nonIntegralDimension .sqrt q.dimension 0.5)
  | some d =>
      if q.value < 0.0 then .error (.domain .sqrt q.value)
      else .ok ⟨q.value.sqrt, d⟩

end Dimensional.Quantity
