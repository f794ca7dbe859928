import Dimensional.Dimension

/-!
What a unit expression denotes, a dimension and the factor from the unit to base units, and the
decimal prefixes of units, each written as a single character.
-/

namespace Dimensional.Units

structure Measure where
  dimension : Dimension
  scale : Float
deriving DecidableEq

namespace Measure

def one : Measure :=
  ⟨.unitless, 1.0⟩

def mul? (a b : Measure) : Option Measure :=
  (a.dimension.mul? b.dimension).map (⟨·, a.scale * b.scale⟩)

def div? (a b : Measure) : Option Measure :=
  (a.dimension.div? b.dimension).map (⟨·, a.scale / b.scale⟩)

/-- Integer powers of the scale multiply repeatedly, other powers take the exponent as a float. -/
def scalePower (scale : Float) (exponent : Rat) : Float :=
  if exponent.den = 1 ∧ Number.isShortInt exponent.num then Number.intPower scale exponent.num
  else Number.realPower scale (Number.ratToFloat exponent)

def power? (m : Measure) (exponent : Rat) : Option Measure :=
  (m.dimension.scale? exponent).map (⟨·, scalePower m.scale exponent⟩)

end Measure

structure Prefix where
  symbol : Char
  name : String
  multiplier : Float

namespace Prefix

/-- Both the micro sign and the Greek letter mu are read as micro. -/
def all : List Prefix :=
  [⟨'Y', "yotta", 1e24⟩,
   ⟨'Z', "zetta", 1e21⟩,
   ⟨'E', "exa", 1e18⟩,
   ⟨'P', "peta", 1e15⟩,
   ⟨'T', "tera", 1e12⟩,
   ⟨'G', "giga", 1e9⟩,
   ⟨'M', "mega", 1e6⟩,
   ⟨'k', "kilo", 1e3⟩,
   ⟨'h', "hecto", 1e2⟩,
   ⟨'d', "deci", 1e-1⟩,
   ⟨'c', "centi", 1e-2⟩,
   ⟨'m', "milli", 1e-3⟩,
   ⟨'u', "micro", 1e-6⟩,
   ⟨'\u00b5', "micro", 1e-6⟩,
   ⟨'n', "nano", 1e-9⟩,
   ⟨'p', "pico", 1e-12⟩,
   ⟨'f', "femto", 1e-15⟩,
   ⟨'a', "atto", 1e-18⟩,
   ⟨'z', "zepto", 1e-21⟩,
   ⟨'y', "yocto", 1e-24⟩,
   ⟨'\u03bc', "micro", 1e-6⟩]

def ofChar? (c : Char) : Option Prefix :=
  all.find? (·.symbol == c)

end Prefix

end Dimensional.Units
