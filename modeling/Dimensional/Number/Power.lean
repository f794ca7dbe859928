import Dimensional.Number.Magnitude

/-!
Powers of floats, and the fractions with a small denominator that exponents stand for, such as
`0.3333333333` for a third.
-/

namespace Dimensional.Number

/-- Squares `base` while `count` is halved, and multiplies into `product` where it is odd. -/
def repeatedSquare (product base : Float) (count : Nat) : Float :=
  let product := if count % 2 = 1 then product * base else product
  if h : count / 2 = 0 then product else repeatedSquare product (base * base) (count / 2)
termination_by count

/-- A negative power is the reciprocal of the positive one. -/
def intPower (base : Float) (n : Int) : Float :=
  let power := repeatedSquare 1.0 base n.natAbs
  if n < 0 then 1.0 / power else power

/-- Every power of one is one, that of an undefined exponent too. -/
def realPower (base exponent : Float) : Float :=
  if base == 1.0 then 1.0 else Float.pow base exponent

/-- The integers that count a repeated multiplication: those of 32 bits. -/
def isShortInt (n : Int) : Bool :=
  -2147483648 ≤ n && n ≤ 2147483647

def isLongInt (n : Int) : Bool :=
  -9223372036854775808 ≤ n && n ≤ 9223372036854775807

def ratToFloat (r : Rat) : Float :=
  Float.ofInt r.num / Float.ofNat r.den

def maxDenominator : Nat := 16

/-- Numbers beyond the range of exponents stand for none. -/
def maxFraction : Rat := 2147483647

def roundHalfAway (r : Rat) : Int :=
  if 0 ≤ r then (r + 1 / 2).floor else -((-r + 1 / 2).floor)

/-- How far a multiple may lie from an integer: the float nearest to `10 ^ -9`. -/
def fractionTolerance : Rat :=
  mkRat 4835703278458517 4835703278458516698824704

/-- The multiple of `x` by a denominator, rounded as floats are. -/
def scaleUp (x : Float) (denominator : Nat) : Float :=
  if denominator = 1 then x else x * Float.ofNat denominator

def withDenominator? (x : Float) (denominator : Nat) : Option Rat :=
  match toRat? (scaleUp x denominator) with
  | none => none
  | some multiple =>
      let numerator := roundHalfAway multiple
      if (multiple - numerator).abs ≤ fractionTolerance then some (mkRat numerator denominator)
      else none

/-- The fraction with the least denominator that `x` stands for. -/
def smallFraction? (x : Float) : Option Rat :=
  match toRat? x with
  | none => none
  | some exact =>
      if maxFraction < exact.abs then none
      else ((List.range maxDenominator).map (· + 1)).findSome? (withDenominator? x)

end Dimensional.Number
