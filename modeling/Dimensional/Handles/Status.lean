import Dimensional.Failure

/-!
Status codes of calls through handles, and the causes of failed calls.
-/

namespace Dimensional.Handles

def okCode : Int := 0

def nullCode : Int := -8

def utf8Code : Int := -9

def kindCode : Failure.Kind → Int
  | .invalidUnitSyntax => -1
  | .unknownUnitSymbol => -2
  | .dimensionMismatch => -3
  | .requiresUnitless => -4
  | .requiresAngleOrUnitless => -5
  | .domain => -6
  | .nonIntegralDimension => -7
  | .exponentOverflow => -11

inductive Parameter where
  | v
  | a
  | b
  | unit
  | out
deriving DecidableEq, Repr

def Parameter.name : Parameter → String
  | v => "v"
  | a => "a"
  | b => "b"
  | unit => "unit"
  | out => "out"

inductive Cause where
  | null (parameter : Parameter)
  | notUtf8 (parameter : Parameter)
  | refused (failure : Failure)

namespace Cause

def code : Cause → Int
  | null _ => nullCode
  | notUtf8 _ => utf8Code
  | refused failure => kindCode failure.kind

def message : Cause → String
  | null parameter => "argument `" ++ parameter.name ++ "` is null"
  | notUtf8 parameter => "argument `" ++ parameter.name ++ "` is not UTF-8"
  | refused failure => failure.message

end Cause

theorem kindCode_neg (kind : Failure.Kind) : kindCode kind < 0 := by
  cases kind <;> decide

theorem Cause.code_neg (cause : Cause) : cause.code < 0 := by
  cases cause with
  | null => exact (by decide : nullCode < 0)
  | notUtf8 => exact (by decide : utf8Code < 0)
  | refused failure => exact kindCode_neg failure.kind

end Dimensional.Handles
