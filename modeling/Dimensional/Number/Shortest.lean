import Dimensional.Number.Magnitude

/-!
The fewest decimal digits that read back to a float: on the first grid of powers of ten on which a
neighbour of the value reads back, the nearer of the two neighbours.
-/

namespace Dimensional.Number

structure Decimal where
  digits : Nat
  exponent : Int
deriving DecidableEq

namespace Decimal

/-- The same value with no trailing zero among its digits. -/
def strip (digits : Nat) (exponent : Int) : Decimal :=
  if h : digits = 0 ∨ digits % 10 ≠ 0 then ⟨digits, exponent⟩
  else strip (digits / 10) (exponent + 1)
termination_by digits

def leading (d : Decimal) : Int :=
  d.exponent + (Nat.toDigits 10 d.digits).length - 1

end Decimal

/-- Which of two neighbouring decimals stands for a value exactly between them. -/
inductive Halfway where
  | up
  | toEven
deriving DecidableEq

def Halfway.picksUpper (rule : Halfway) (lower : Nat) : Bool :=
  match rule with
  | .up => true
  | .toEven => lower % 2 == 1

namespace Magnitude

/-- The neighbour of the value on the grid of multiples of `10 ^ exponent` that reads back, the
nearer one if both do. -/
def onGrid? (m : Magnitude) (rule : Halfway) (exponent : Int) : Option Nat :=
  let (numerator, denominator) := m.inUnitsOf exponent
  let lower := numerator / denominator
  match m.readsBack lower exponent, m.readsBack (lower + 1) exponent with
  | false, false => none
  | true, false => some lower
  | false, true => some (lower + 1)
  | true, true =>
      match compare (2 * numerator) ((2 * lower + 1) * denominator) with
      | .lt => some lower
      | .gt => some (lower + 1)
      | .eq => some (if rule.picksUpper lower then lower + 1 else lower)

def exactDecimal (m : Magnitude) : Decimal :=
  Decimal.strip (m.mantissa * Nat.pow 2 m.exponent.toNat * Nat.pow 5 (-m.exponent).toNat)
    (min m.exponent 0)

/-- Seventeen digits always suffice, so the exact value is the last resort only. -/
def shortest (rule : Halfway) (m : Magnitude) : Decimal :=
  if m.mantissa = 0 then ⟨0, 0⟩
  else
    let scale := m.decimalScale
    let found := (List.range 17).findSome? fun n =>
      let exponent := scale - (n + 1 : Nat)
      (m.onGrid? rule exponent).map (Decimal.strip · exponent)
    found.getD m.exactDecimal

end Magnitude

end Dimensional.Number
