import Dimensional.Dynamic.Operand
import Dimensional.Version

/-!
The names that the scripting module offers.
-/

namespace Dimensional.Dynamic

inductive Export where
  | exceptionClass (name base doc : String)
  | objectClass (name base : String)
  | function (name : String)

namespace Export

def name : Export → String
  | exceptionClass name _ _ => name
  | objectClass name _ => name
  | function name => name

end Export

def moduleName : String := "dv"

def kindDoc : Failure.Kind → String
  | .invalidUnitSyntax => "Malformed unit string."
  | .unknownUnitSymbol => "Unit symbol not in the registry."
  | .dimensionMismatch => "Operands have different dimensions."
  | .requiresUnitless => "Operation needs a unitless operand."
  | .requiresAngleOrUnitless => "Operation needs an angle or unitless operand."
  | .domain => "Value outside the operation's domain."
  | .nonIntegralDimension => "Power would leave fractional dimension exponents."
  | .exponentOverflow => "Dimension exponent outside the representable range."

def baseClass : String := "DVError"

def exports : List Export :=
  let kinds := Failure.Kind.all.map fun kind =>
    Export.exceptionClass (Problem.kindClass kind) baseClass (kindDoc kind)
  let others : List Export :=
    [.exceptionClass baseClass "Exception" "Base class of every dv error.",
      .objectClass "DimensionalVariable" "object",
      .function "asin", .function "acos", .function "atan", .function "version"]
  (kinds ++ others).mergeSort fun a b => a.name ≤ b.name

end Dimensional.Dynamic
