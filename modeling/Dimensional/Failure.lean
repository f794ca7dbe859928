import Dimensional.Dimension.Canonical
import Dimensional.Text.Quoted

/-!
Why an operation on quantities or units is refused, and how the refusal is worded.
-/

namespace Dimensional

inductive Operation where
  | mul
  | div
  | powi
  | powf
  | sqrt
  | ln
  | log2
  | log10
  | sin
  | cos
  | tan
  | asin
  | acos
  | atan
deriving DecidableEq, Repr

namespace Operation

def name : Operation → String
  | mul => "mul"
  | div => "div"
  | powi => "powi"
  | powf => "powf"
  | sqrt => "sqrt"
  | ln => "ln"
  | log2 => "log2"
  | log10 => "log10"
  | sin => "sin"
  | cos => "cos"
  | tan => "tan"
  | asin => "asin"
  | acos => "acos"
  | atan => "atan"

end Operation

/-- What a unit expression lacks at some place. -/
inductive Wanted where
  | factor
  | exponent
  | closing
  | closingExponent
deriving DecidableEq, Repr

/-- Offsets count UTF-8 bytes from the start of the expression. -/
inductive SyntaxReason where
  | unexpected (found : Char) (offset : Nat)
  | missing (wanted : Wanted) (found : Char) (offset : Nat)
  | ended (wanted : Wanted)
  | nestedTooDeeply
  | bareNumber (digits : String) (offset : Nat)
  | exponentTooLarge (digits : String)
  | zeroDenominator
  | exponentOverflow
deriving DecidableEq, Repr

inductive Failure where
  | invalidUnitSyntax (unit : String) (reason : SyntaxReason)
  | unknownUnitSymbol (unit symbol : String)
  | dimensionMismatch (left right : Dimension)
  | requiresUnitless (op : Operation) (dimension : Dimension)
  | requiresAngleOrUnitless (op : Operation) (dimension : Dimension)
  | domain (op : Operation) (value : Float)
  | nonIntegralDimension (op : Operation) (dimension : Dimension) (exponent : Float)
  | exponentOverflow (op : Operation) (dimension : Dimension)

namespace Failure

inductive Kind where
  | invalidUnitSyntax
  | unknownUnitSymbol
  | dimensionMismatch
  | requiresUnitless
  | requiresAngleOrUnitless
  | domain
  | nonIntegralDimension
  | exponentOverflow
deriving DecidableEq, Repr

namespace Kind

def all : List Kind :=
  [invalidUnitSyntax, unknownUnitSymbol, dimensionMismatch, requiresUnitless,
    requiresAngleOrUnitless, domain, nonIntegralDimension, exponentOverflow]

def name : Kind → String
  | invalidUnitSyntax => "InvalidUnitSyntax"
  | unknownUnitSymbol => "UnknownUnitSymbol"
  | dimensionMismatch => "DimensionMismatch"
  | requiresUnitless => "RequiresUnitless"
  | requiresAngleOrUnitless => "RequiresAngleOrUnitless"
  | domain => "DomainError"
  | nonIntegralDimension => "NonIntegralDimension"
  | exponentOverflow => "ExponentOverflow"

@[simp] theorem mem_all (kind : Kind) : kind ∈ all := by
  cases kind <;> decide

end Kind

def kind : Failure → Kind
  | invalidUnitSyntax .. => .invalidUnitSyntax
  | unknownUnitSymbol .. => .unknownUnitSymbol
  | dimensionMismatch .. => .dimensionMismatch
  | requiresUnitless .. => .requiresUnitless
  | requiresAngleOrUnitless .. => .requiresAngleOrUnitless
  | domain .. => .domain
  | nonIntegralDimension .. => .nonIntegralDimension
  | exponentOverflow .. => .exponentOverflow

end Failure

open Text

def Wanted.phrase : Wanted → String
  | factor => "expected a unit"
  | exponent => "missing exponent"
  | closing => "expected ')'"
  | closingExponent => "expected ')' closing the exponent"

def Wanted.endedPhrase : Wanted → String
  | exponent => "missing exponent at end of string"
  | wanted => wanted.phrase ++ " but the string ended"

namespace SyntaxReason

def message : SyntaxReason → String
  | unexpected found offset =>
      "unexpected " ++ quoteCharString found ++ " at offset " ++ toString offset
  | missing wanted found offset =>
      wanted.phrase ++ " at offset " ++ toString offset ++ ", found " ++ quoteCharString found
  | ended wanted => wanted.endedPhrase
  | nestedTooDeeply => "parentheses nested too deeply"
  | bareNumber digits offset =>
      "numeric factor " ++ quoteString digits ++ " at offset " ++ toString offset ++
        "; only 1 may stand alone"
  | exponentTooLarge digits => "exponent " ++ quoteString digits ++ " is out of range"
  | zeroDenominator => "zero denominator in exponent"
  | exponentOverflow => "exponent overflow"

end SyntaxReason

def Dimension.text (d : Dimension) : String :=
  String.ofList d.display

def Number.plainText (x : Float) : String :=
  String.ofList (plain.render x)

namespace Failure

def message : Failure → String
  | invalidUnitSyntax unit reason =>
      "invalid unit syntax in " ++ quoteString unit ++ ": " ++ reason.message
  | unknownUnitSymbol unit symbol =>
      "unknown unit symbol " ++ quoteString symbol ++ " in " ++ quoteString unit
  | dimensionMismatch left right =>
      "dimension mismatch: " ++ left.text ++ " vs " ++ right.text
  | requiresUnitless op dimension =>
      op.name ++ " requires a unitless operand, got " ++ dimension.text
  | requiresAngleOrUnitless op dimension =>
      op.name ++ " requires an angle or unitless operand, got " ++ dimension.text
  | domain op value =>
      op.name ++ " is undefined for value " ++ Number.plainText value
  | nonIntegralDimension op dimension exponent =>
      op.name ++ " by " ++ Number.plainText exponent ++ " of " ++ dimension.text ++
        " does not yield integral exponents"
  | exponentOverflow op dimension =>
      op.name ++ " of " ++ dimension.text ++ " overflows the exponent range"

end Failure

end Dimensional
