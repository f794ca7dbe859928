import Dimensional.Number.Shortest

/-!
How a float is laid out as text, once its digits are chosen.
-/

namespace Dimensional.Number

structure Layout where
  /-- Whether a number whose leading digit has this power of ten is written without an exponent. -/
  positional : Int → Bool
  /-- A positional integer ends in `.0`. -/
  pointZero : Bool
  /-- An exponent that is not negative has a plus sign. -/
  plusSign : Bool
  halfway : Halfway

def natText (n : Nat) : List Char :=
  Nat.toDigits 10 n

def intText (n : Int) : List Char :=
  if n < 0 then '-' :: natText n.natAbs else natText n.natAbs

def signed (negative : Bool) (text : List Char) : List Char :=
  if negative then '-' :: text else text

namespace Decimal

/-- The digits with the point where it belongs and zeros where they are missing. -/
def positional (d : Decimal) (pointZero : Bool) : List Char :=
  let digits := natText d.digits
  if 0 ≤ d.exponent then
    digits ++ List.replicate d.exponent.toNat '0' ++ (if pointZero then ['.', '0'] else [])
  else
    let places := (-d.exponent).toNat
    if digits.length ≤ places then
      ['0', '.'] ++ List.replicate (places - digits.length) '0' ++ digits
    else
      digits.take (digits.length - places) ++ '.' :: digits.drop (digits.length - places)

def scientific (d : Decimal) (plusSign : Bool) : List Char :=
  let fraction := (natText d.digits).drop 1
  (natText d.digits).take 1 ++ (if fraction.isEmpty then [] else '.' :: fraction) ++ 'e' ::
    ((if plusSign && 0 ≤ d.leading then ['+'] else []) ++ intText d.leading)

end Decimal

namespace Layout

def decimal (layout : Layout) (d : Decimal) : List Char :=
  if layout.positional d.leading then d.positional layout.pointZero
  else d.scientific layout.plusSign

def render (layout : Layout) (x : Float) : List Char :=
  match parts x with
  | .nan => ['N', 'a', 'N']
  | .infinite negative => signed negative ['i', 'n', 'f']
  | .finite negative magnitude =>
      signed negative (layout.decimal (magnitude.shortest layout.halfway))

end Layout

/-- The digits alone, never with an exponent: the form of numbers in messages. -/
def plain : Layout where
  positional _ := true
  pointZero := false
  plusSign := false
  halfway := .up

/-- Exactly `places` fraction digits of the exact value, a tie going to the even last digit. -/
def fixed (places : Nat) (x : Float) : List Char :=
  match parts x with
  | .nan => ['N', 'a', 'N']
  | .infinite negative => signed negative ['i', 'n', 'f']
  | .finite negative magnitude =>
      let (numerator, denominator) := magnitude.inUnitsOf (-places)
      let quotient := numerator / denominator
      let rounded := match compare (2 * (numerator % denominator)) denominator with
        | .lt => quotient
        | .gt => quotient + 1
        | .eq => quotient + quotient % 2
      signed negative <|
        if places = 0 then natText rounded
        else (Decimal.mk rounded (-places)).positional false

end Dimensional.Number
