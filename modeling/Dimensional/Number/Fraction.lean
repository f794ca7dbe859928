import Dimensional.Number.Power

/-!
Fractions of integers of 64 bits.  Sums and differences go over the least common denominator, and
products take out common factors first.  A product or a sum of integers that leaves 64 bits leaves
the fraction without a result.
-/

namespace Dimensional.Number

/-- The integer itself, if it has at most 64 bits. -/
def longInt? (n : Int) : Option Int :=
  if isLongInt n then some n else none

namespace Fraction

/-- The numerator of the same fraction over a multiple of its denominator. -/
def numeratorOver (common : Int) (a : Rat) : Int :=
  common / a.den * a.num

/-- Both numerators are brought over the least common denominator and combined there. -/
def overCommon? (combine : Int → Int → Int) (a b : Rat) : Option Rat := do
  let common ← longInt? ((a.den / a.den.gcd b.den : Nat) * (b.den : Int))
  let left ← longInt? (numeratorOver common a)
  let right ← longInt? (numeratorOver common b)
  let numerator ← longInt? (combine left right)
  return mkRat numerator common.toNat

def add? (a b : Rat) : Option Rat :=
  overCommon? (· + ·) a b

def sub? (a b : Rat) : Option Rat :=
  overCommon? (· - ·) a b

/-- Each numerator is freed of what it shares with the denominator of the other. -/
def mul? (a b : Rat) : Option Rat := do
  let first := a.num.gcd b.den
  let second := b.num.gcd a.den
  let numerator ← longInt? (a.num / first * (b.num / second))
  let denominator ← longInt? ((a.den / second : Nat) * (b.den / first : Nat))
  return mkRat numerator denominator.toNat

end Fraction

end Dimensional.Number
