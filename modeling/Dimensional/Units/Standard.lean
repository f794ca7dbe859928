import Dimensional.Units.Registry

/-!
The units that are always known.
-/

namespace Dimensional.Units

namespace Standard

/-- The exponents stand in the order of `Base.all`. -/
def entry (symbol name : String) (exponents : Vector Int 8) (scale : Float) (prefixable : Bool) :
    Entry :=
  ⟨symbol, name, .ofInts exponents, scale, prefixable⟩

def pi : Float := 3.141592653589793

def turn : Float := 6.283185307179586

def length : List Entry :=
  [entry "m" "meter" #v[1, 0, 0, 0, 0, 0, 0, 0] 1.0 true,
   entry "mi" "mile" #v[1, 0, 0, 0, 0, 0, 0, 0] 1609.344 false,
   entry "yd" "yard" #v[1, 0, 0, 0, 0, 0, 0, 0] 0.9144 false,
   entry "ft" "foot" #v[1, 0, 0, 0, 0, 0, 0, 0] 0.3048 false,
   entry "in" "inch" #v[1, 0, 0, 0, 0, 0, 0, 0] 0.0254 false,
   entry "nmi" "nautical mile" #v[1, 0, 0, 0, 0, 0, 0, 0] 1852.0 false,
   entry "au" "astronomical unit" #v[1, 0, 0, 0, 0, 0, 0, 0] 1.495978707e11 false,
   entry "ly" "light year" #v[1, 0, 0, 0, 0, 0, 0, 0] 9.4607e15 false,
   entry "pc" "parsec" #v[1, 0, 0, 0, 0, 0, 0, 0] 3.0857e16 false]

def area : List Entry :=
  [entry "ha" "hectare" #v[2, 0, 0, 0, 0, 0, 0, 0] 1.0e4 false,
   entry "ac" "acre" #v[2, 0, 0, 0, 0, 0, 0, 0] 4046.8564224 false]

def volume : List Entry :=
  [entry "l" "liter" #v[3, 0, 0, 0, 0, 0, 0, 0] 1.0e-3 true,
   entry "L" "liter" #v[3, 0, 0, 0, 0, 0, 0, 0] 1.0e-3 true,
   entry "gal" "US gallon" #v[3, 0, 0, 0, 0, 0, 0, 0] 3.785411784e-3 false,
   entry "qt" "US quart" #v[3, 0, 0, 0, 0, 0, 0, 0] 9.46352946e-4 false,
   entry "pt" "US pint" #v[3, 0, 0, 0, 0, 0, 0, 0] 4.73176473e-4 false,
   entry "cup" "US cup" #v[3, 0, 0, 0, 0, 0, 0, 0] 2.365882365e-4 false]

def velocity : List Entry :=
  [entry "kn" "knot" #v[1, 0, -1, 0, 0, 0, 0, 0] (1852.0 / 3600.0) false,
   entry "mph" "mile per hour" #v[1, 0, -1, 0, 0, 0, 0, 0] 0.44704 false,
   entry "kph" "kilometer per hour" #v[1, 0, -1, 0, 0, 0, 0, 0] (1000.0 / 3600.0) false]

def mass : List Entry :=
  [entry "kg" "kilogram" #v[0, 1, 0, 0, 0, 0, 0, 0] 1.0 false,
   entry "g" "gram" #v[0, 1, 0, 0, 0, 0, 0, 0] 1.0e-3 true,
   entry "t" "metric ton" #v[0, 1, 0, 0, 0, 0, 0, 0] 1.0e3 false,
   entry "lb" "pound" #v[0, 1, 0, 0, 0, 0, 0, 0] 0.45359237 false,
   entry "oz" "ounce" #v[0, 1, 0, 0, 0, 0, 0, 0] 0.028349523125 false]

def time : List Entry :=
  [entry "s" "second" #v[0, 0, 1, 0, 0, 0, 0, 0] 1.0 true,
   entry "min" "minute" #v[0, 0, 1, 0, 0, 0, 0, 0] 60.0 false,
   entry "hr" "hour" #v[0, 0, 1, 0, 0, 0, 0, 0] 3600.0 false,
   entry "h" "hour" #v[0, 0, 1, 0, 0, 0, 0, 0] 3600.0 false,
   entry "d" "day" #v[0, 0, 1, 0, 0, 0, 0, 0] 86400.0 false,
   entry "wk" "week" #v[0, 0, 1, 0, 0, 0, 0, 0] 604800.0 false,
   entry "mo" "month" #v[0, 0, 1, 0, 0, 0, 0, 0] 2629800.0 false,
   entry "yr" "year" #v[0, 0, 1, 0, 0, 0, 0, 0] 31536000.0 false]

def temperature : List Entry :=
  [entry "K" "kelvin" #v[0, 0, 0, 1, 0, 0, 0, 0] 1.0 true,
   entry "C" "celsius" #v[0, 0, 0, 1, 0, 0, 0, 0] 1.0 false,
   entry "F" "fahrenheit" #v[0, 0, 0, 1, 0, 0, 0, 0] (5.0 / 9.0) false,
   entry "R" "rankine" #v[0, 0, 0, 1, 0, 0, 0, 0] (5.0 / 9.0) false]

def current : List Entry :=
  [entry "A" "ampere" #v[0, 0, 0, 0, 1, 0, 0, 0] 1.0 true]

def substance : List Entry :=
  [entry "mol" "mole" #v[0, 0, 0, 0, 0, 1, 0, 0] 1.0 true]

def luminosity : List Entry :=
  [entry "cd" "candela" #v[0, 0, 0, 0, 0, 0, 1, 0] 1.0 true,
   entry "lux" "lux" #v[-2, 0, 0, 0, 0, 0, 1, 0] 1.0 false]

def frequency : List Entry :=
  [entry "Hz" "hertz" #v[0, 0, -1, 0, 0, 0, 0, 0] 1.0 true]

def force : List Entry :=
  [entry "N" "newton" #v[1, 1, -2, 0, 0, 0, 0, 0] 1.0 true,
   entry "lbf" "pound-force" #v[1, 1, -2, 0, 0, 0, 0, 0] 4.4482216152605 false,
   entry "dyn" "dyne" #v[1, 1, -2, 0, 0, 0, 0, 0] 1.0e-5 false]

def energy : List Entry :=
  [entry "J" "joule" #v[2, 1, -2, 0, 0, 0, 0, 0] 1.0 true,
   entry "eV" "electronvolt" #v[2, 1, -2, 0, 0, 0, 0, 0] 1.602176634e-19 true,
   entry "ev" "electronvolt" #v[2, 1, -2, 0, 0, 0, 0, 0] 1.602176634e-19 false,
   entry "cal" "calorie" #v[2, 1, -2, 0, 0, 0, 0, 0] 4.184 true,
   entry "Wh" "watt-hour" #v[2, 1, -2, 0, 0, 0, 0, 0] 3600.0 true,
   entry "BTU" "British thermal unit" #v[2, 1, -2, 0, 0, 0, 0, 0] 1055.05585 false,
   entry "erg" "erg" #v[2, 1, -2, 0, 0, 0, 0, 0] 1.0e-7 false]

def power : List Entry :=
  [entry "W" "watt" #v[2, 1, -3, 0, 0, 0, 0, 0] 1.0 true,
   entry "hp" "horsepower" #v[2, 1, -3, 0, 0, 0, 0, 0] 745.6998715822702 false]

def pressure : List Entry :=
  [entry "Pa" "pascal" #v[-1, 1, -2, 0, 0, 0, 0, 0] 1.0 true,
   entry "bar" "bar" #v[-1, 1, -2, 0, 0, 0, 0, 0] 1.0e5 true,
   entry "atm" "standard atmosphere" #v[-1, 1, -2, 0, 0, 0, 0, 0] 101325.0 false,
   entry "psi" "pound per square inch" #v[-1, 1, -2, 0, 0, 0, 0, 0] 6894.757293168361 false,
   entry "torr" "torr" #v[-1, 1, -2, 0, 0, 0, 0, 0] (101325.0 / 760.0) false]

def electricity : List Entry :=
  [entry "V" "volt" #v[2, 1, -3, 0, -1, 0, 0, 0] 1.0 true,
   entry "Ohm" "ohm" #v[2, 1, -3, 0, -2, 0, 0, 0] 1.0 true]

def angle : List Entry :=
  [entry "rad" "radian" #v[0, 0, 0, 0, 0, 0, 0, 1] 1.0 true,
   entry "deg" "degree" #v[0, 0, 0, 0, 0, 0, 0, 1] (pi / 180.0) false,
   entry "arcmin" "arcminute" #v[0, 0, 0, 0, 0, 0, 0, 1] (pi / 10800.0) false,
   entry "arcsec" "arcsecond" #v[0, 0, 0, 0, 0, 0, 0, 1] (pi / 648000.0) false,
   entry "rev" "revolution" #v[0, 0, 0, 0, 0, 0, 0, 1] turn false]

end Standard

def Registry.standard : Registry where
  entries :=
    Standard.length ++ Standard.area ++ Standard.volume ++ Standard.velocity
      ++ Standard.mass ++ Standard.time ++ Standard.temperature ++ Standard.current
      ++ Standard.substance ++ Standard.luminosity ++ Standard.frequency ++ Standard.force
      ++ Standard.energy ++ Standard.power ++ Standard.pressure ++ Standard.electricity
      ++ Standard.angle

end Dimensional.Units
