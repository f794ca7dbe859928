/-!
The exact value of a 64-bit binary float, and of decimals beside it.
-/

namespace Dimensional.Number

/-- The value `mantissa * 2 ^ exponent` without its sign. -/
structure Magnitude where
  mantissa : Nat
  exponent : Int
  /-- The gap to the next smaller value is half the gap to the next larger one. -/
  narrowBelow : Bool
deriving DecidableEq

inductive Parts where
  | nan
  | infinite (negative : Bool)
  | finite (negative : Bool) (magnitude : Magnitude)
deriving DecidableEq

def Parts.ofBits (bits : UInt64) : Parts :=
  let negative := bits >>> 63 == 1
  let exponent := ((bits >>> 52) &&& 0x7ff).toNat
  let fraction := (bits &&& 0xfffffffffffff).toNat
  if exponent = 0x7ff then
    if fraction = 0 then .infinite negative else .nan
  else if exponent = 0 then
    .finite negative ⟨fraction, -1074, false⟩
  else
    .finite negative ⟨0x10000000000000 + fraction, exponent - 1075, fraction == 0 && exponent > 1⟩

def parts (x : Float) : Parts :=
  Parts.ofBits x.toBits

/-- How `a * 10 ^ i` compares with `b * 2 ^ j`. -/
def compareScaled (a : Nat) (i : Int) (b : Nat) (j : Int) : Ordering :=
  compare (a * Nat.pow 10 i.toNat * Nat.pow 2 (-j).toNat)
    (b * Nat.pow 2 j.toNat * Nat.pow 10 (-i).toNat)

namespace Magnitude

def toRat (m : Magnitude) : Rat :=
  if 0 ≤ m.exponent then ((m.mantissa * Nat.pow 2 m.exponent.toNat : Nat) : Rat)
  else mkRat m.mantissa (Nat.pow 2 (-m.exponent).toNat)

/-- The decimal `digits * 10 ^ exponent` lies among the reals whose nearest float this is; a real
halfway between two floats belongs to the one with the even mantissa. -/
def readsBack (m : Magnitude) (digits : Nat) (exponent : Int) : Bool :=
  let low := if m.narrowBelow then 4 * m.mantissa - 1 else 4 * m.mantissa - 2
  let high := 4 * m.mantissa + 2
  let toLow := compareScaled digits exponent low (m.exponent - 2)
  let toHigh := compareScaled digits exponent high (m.exponent - 2)
  let even := m.mantissa % 2 == 0
  (toLow == .gt || (even && toLow == .eq)) && (toHigh == .lt || (even && toHigh == .eq))

/-- Numerator and denominator of the value in units of `10 ^ exponent`. -/
def inUnitsOf (m : Magnitude) (exponent : Int) : Nat × Nat :=
  (m.mantissa * Nat.pow 2 m.exponent.toNat * Nat.pow 10 (-exponent).toNat,
    Nat.pow 2 (-m.exponent).toNat * Nat.pow 10 exponent.toNat)

/-- The least `k` with a value below `10 ^ k`, for a mantissa other than zero. -/
def decimalScale (m : Magnitude) : Int :=
  let guess := ((m.mantissa.log2 : Int) + m.exponent) * 30103 / 100000
  let below (k : Int) : Bool := compareScaled 1 k m.mantissa m.exponent == .gt
  if below guess then guess else if below (guess + 1) then guess + 1 else guess + 2

end Magnitude

/-- The exact value, of finite numbers only. -/
def toRat? (x : Float) : Option Rat :=
  match parts x with
  | .finite negative magnitude =>
      some (if negative then -magnitude.toRat else magnitude.toRat)
  | _ => none

end Dimensional.Number
