/-!
Reading numbers: the float nearest to a decimal, a tie going to the even mantissa, and whole numbers
that must fit in a range.
-/

namespace Dimensional.Number

def natOfDigits (digits : List Char) : Nat :=
  digits.foldl (fun n c => n * 10 + (c.toNat - '0'.toNat)) 0

/-- The float nearest to `digits * 10 ^ exponent`.  A leading digit beyond `10 ^ 400` is infinite
and one below `10 ^ -400` is zero, however large the exponent. -/
def ofDecimal (digits : Nat) (exponent : Int) : Float :=
  let leading := exponent + (Nat.toDigits 10 digits).length
  if digits = 0 ∨ leading < -400 then 0.0
  else if 400 < leading then 1.0 / 0.0
  else if exponent < 0 then Float.ofScientific digits true exponent.natAbs
  else Float.ofScientific digits false exponent.natAbs

def ofParts (negative : Bool) (digits : Nat) (exponent : Int) : Float :=
  if negative then -ofDecimal digits exponent else ofDecimal digits exponent

def digitsOnly? (text : List Char) : Option Nat :=
  if text.isEmpty ∨ !text.all Char.isDigit then none else some (natOfDigits text)

/-- A sign, or none, and decimal digits. -/
def signedInt? : List Char → Option Int
  | '-' :: rest => (digitsOnly? rest).map fun n => -(n : Int)
  | '+' :: rest => (digitsOnly? rest).map fun n => (n : Int)
  | text => (digitsOnly? text).map fun n => (n : Int)

def int32? (text : List Char) : Option Int :=
  (signedInt? text).filter fun n => -2147483648 ≤ n && n ≤ 2147483647

end Dimensional.Number
