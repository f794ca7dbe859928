import Dimensional.Number.Reading
import Dimensional.Quantity.Operations

/-!
Operands of no fixed type, as a scripting language hands them over, and what each converts to.
-/

namespace Dimensional.Dynamic

inductive Problem where
  | refused (failure : Failure)
  /-- An operand that is no quantity and no number. -/
  | unsupported (className : String)
  | exponentNotReal
  | modulus
  /-- An operand or a number of operands that does not fit. -/
  | wrongType
  | tooLarge
  | noSuchName
  /-- What a class raises when an object of it is to be converted. -/
  | raised (className : String)

namespace Problem

def kindClass : Failure.Kind → String
  | .domain => "DomainError"
  | kind => kind.name ++ "Error"

def className : Problem → String
  | refused failure => kindClass failure.kind
  | tooLarge => "OverflowError"
  | noSuchName => "AttributeError"
  | raised className => className
  | _ => "TypeError"

def isRefusal : Problem → Bool
  | refused _ => true
  | _ => false

/-- The texts that do not depend on the interpreter. -/
def message? : Problem → Option String
  | refused failure => some failure.message
  | unsupported className =>
      some ("unsupported operand type for DimensionalVariable: <class '" ++ className ++ "'>")
  | exponentNotReal => some "exponent must be a real number"
  | modulus => some "pow() with a modulus is not supported for DimensionalVariable"
  | _ => .none

end Problem

/-- An object of any other class.  A class may convert its objects to real numbers, to integers or
to both, and either conversion may raise; a class of texts gives the text.  The class leaves it to
a quantity to answer an operator or a comparison with one. -/
structure Foreign where
  className : String
  toReal? : Option (Except Problem Float)
  toInteger? : Option (Except Problem Int)
  toText? : Option String

inductive Operand where
  | quantity (q : Quantity)
  | int (n : Int)
  | float (x : Float)
  | bool (b : Bool)
  | text (t : String)
  | none
  | list
  | object (o : Foreign)

namespace Operand

def className : Operand → String
  | quantity _ => "dv.DimensionalVariable"
  | int _ => "int"
  | float _ => "float"
  | bool _ => "bool"
  | text _ => "str"
  | none => "NoneType"
  | list => "list"
  | object o => o.className

def isQuantity : Operand → Bool
  | quantity _ => true
  | _ => false

def intToFloat (n : Int) : Except Problem Float :=
  let x := Number.ofParts (n < 0) n.natAbs 0
  if x.isInf then .error .tooLarge else .ok x

/-- Numbers of any class; an integer beyond the floats is too large.  A class that converts to
integers only has them converted further. -/
def toFloat : Operand → Except Problem Float
  | float x => .ok x
  | int n => intToFloat n
  | bool b => .ok (if b then 1.0 else 0.0)
  | object o =>
      match o.toReal?, o.toInteger? with
      | some x, _ => x
      | .none, some n => n.bind intToFloat
      | .none, .none => .error .wrongType
  | _ => .error .wrongType

def longInt (n : Int) : Except Problem Int :=
  if Number.isLongInt n then .ok n else .error .tooLarge

/-- Integers of 64 bits. -/
def toInt : Operand → Except Problem Int
  | int n => longInt n
  | bool b => .ok (if b then 1 else 0)
  | object o =>
      match o.toInteger? with
      | some n => n.bind longInt
      | .none => .error .wrongType
  | _ => .error .wrongType

def toText : Operand → Except Problem String
  | text t => .ok t
  | object o =>
      match o.toText? with
      | some t => .ok t
      | .none => .error .wrongType
  | _ => .error .wrongType

def toQuantity? : Operand → Option Quantity
  | quantity q => some q
  | operand =>
      match operand.toFloat with
      | .ok x => some (Quantity.unitless x)
      | .error _ => .none

def toQuantity (operand : Operand) : Except Problem Quantity :=
  match operand.toQuantity? with
  | some q => .ok q
  | .none => .error (.unsupported operand.className)

end Operand

end Dimensional.Dynamic
