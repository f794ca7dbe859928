import Dimensional.Dimension
import Dimensional.Number.Layout

/-!
The canonical unit expression of a dimension, such as `m*kg/s^2`: symbols with a positive exponent
joined by `*`, or `1` if there are none, then each symbol with a negative one behind its own `/`.
-/

namespace Dimensional.Dimension

open Number

def term (symbol : List Char) (e : Rat) : List Char :=
  if e = 1 then symbol
  else if e.den = 1 then symbol ++ '^' :: intText e.num
  else symbol ++ ['^', '('] ++ intText e.num ++ '/' :: natText e.den ++ [')']

def factors (d : Dimension) : List (List Char × Rat) :=
  Base.all.map fun q => (q.symbol.toList, d.exponent q)

def numerators (d : Dimension) : List (List Char) :=
  d.factors.filterMap fun (symbol, e) => if 0 < e then some (term symbol e) else none

def denominators (d : Dimension) : List (List Char) :=
  d.factors.filterMap fun (symbol, e) => if e < 0 then some (term symbol (-e)) else none

def leadText (d : Dimension) : List Char :=
  if d.numerators.isEmpty then
    if d.denominators.isEmpty then [] else ['1']
  else ['*'].intercalate d.numerators

/-- Empty for the unitless dimension. -/
def unitText (d : Dimension) : List Char :=
  d.leadText ++ d.denominators.flatMap ('/' :: ·)

def display (d : Dimension) : List Char :=
  if d.isUnitless then "(unitless)".toList else d.unitText

end Dimensional.Dimension
