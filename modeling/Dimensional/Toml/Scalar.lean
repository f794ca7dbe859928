import Dimensional.Number.Reading
import Dimensional.Text.Lines
import Dimensional.Toml.Item

/-!
TOML numbers, booleans, dates and times, each of which is a word of its own.
-/

namespace Dimensional.Toml.Scalar

open Text

def isWordChar (c : Char) : Bool :=
  c.isAlphanum || c == '+' || c == '-' || c == '_' || c == '.' || c == ':'

/-- Digits, between which single underscores may stand. -/
def grouped? (isDigit : Char → Bool) (word : List Char) : Option (List Char) :=
  let groups := splitAt '_' word
  if groups.all fun group => !group.isEmpty && group.all isDigit then some groups.flatten else none

/-- Decimal digits with no zeros in front. -/
def whole? (word : List Char) : Option (List Char) :=
  if word.head? = some '0' ∧ word ≠ ['0'] then none else grouped? Char.isDigit word

/-- Whether the sign is a minus, and what follows the sign. -/
def splitSign : List Char → Bool × List Char
  | '-' :: rest => (true, rest)
  | '+' :: rest => (false, rest)
  | word => (false, word)

def int64? (n : Int) : Option Item :=
  if -0x8000000000000000 ≤ n ∧ n < 0x8000000000000000 then some (.integer n) else none

def decimal? (word : List Char) : Option Item := do
  let (negative, rest) := splitSign word
  let digits ← whole? rest
  let n : Int := Number.natOfDigits digits
  int64? (if negative then -n else n)

/-- Letters follow the decimal digits; what is neither counts as more than any digit. -/
def digitValue (c : Char) : Nat :=
  if c.isDigit then c.toNat - '0'.toNat
  else if 'a' ≤ c ∧ c ≤ 'z' then c.toNat - 'a'.toNat + 10
  else if 'A' ≤ c ∧ c ≤ 'Z' then c.toNat - 'A'.toNat + 10
  else 36

def based? (base : Nat) (word : List Char) : Option Item := do
  let digits ← grouped? (digitValue · < base) word
  int64? (digits.foldl (fun n c => n * base + digitValue c) 0 : Nat)

/-- The digits before and behind the point, if there is a point. -/
def mantissa? (word : List Char) : Option (List Char × Option (List Char)) := do
  match splitAt '.' word with
  | [whole] => return (← whole? whole, none)
  | [whole, fraction] => return (← whole? whole, some (← grouped? Char.isDigit fraction))
  | _ => none

/-- What stands behind the mantissa: nothing, or a letter and a number. -/
def exponent? : List Char → Option (Option Int)
  | [] => some none
  | _ :: word => do
      let (negative, rest) := splitSign word
      let n : Int := Number.natOfDigits (← grouped? Char.isDigit rest)
      return some (if negative then -n else n)

def isExponentMark (c : Char) : Bool :=
  c == 'e' || c == 'E'

/-- A number that is too large for a float is refused unless it is negative. -/
def bounded? (negative : Bool) (x : Float) : Option Item :=
  if x.isInf && !negative then none else some (.float x)

def float? (word : List Char) : Option Item := do
  let (negative, rest) := splitSign word
  if rest = "inf".toList then some (.float (if negative then -1 / 0 else 1 / 0))
  else if rest = "nan".toList then some (.float (0 / 0))
  else
    let (whole, fraction) ← mantissa? (rest.takeWhile (!isExponentMark ·))
    let exponent ← exponent? (rest.dropWhile (!isExponentMark ·))
    if fraction.isNone ∧ exponent.isNone then none
    else
      let fraction := fraction.getD []
      bounded? negative <|
        Number.ofParts negative (Number.natOfDigits (whole ++ fraction))
          (exponent.getD 0 - fraction.length)

def isBetween (low high : Nat) (digits : List Char) : Bool :=
  (Number.digitsOnly? digits).any fun n => low ≤ n && n ≤ high

def isLeapYear (year : Nat) : Bool :=
  year % 4 == 0 && (year % 100 != 0 || year % 400 == 0)

def daysIn (year month : Nat) : Nat :=
  if month = 2 then if isLeapYear year then 29 else 28
  else if month = 4 ∨ month = 6 ∨ month = 9 ∨ month = 11 then 30
  else 31

def isDate : List Char → Bool
  | [y₁, y₂, y₃, y₄, '-', m₁, m₂, '-', d₁, d₂] =>
      match Number.digitsOnly? [y₁, y₂, y₃, y₄], Number.digitsOnly? [m₁, m₂] with
      | some year, some month =>
          1 ≤ month && month ≤ 12 && isBetween 1 (daysIn year month) [d₁, d₂]
      | _, _ => false
  | _ => false

/-- A fraction of a second, which may be missing. -/
def isSecondFraction : List Char → Bool
  | [] => true
  | '.' :: digits => (Number.digitsOnly? digits).isSome
  | _ => false

/-- Seconds may run to 60, for leap seconds. -/
def isTime : List Char → Bool
  | h₁ :: h₂ :: ':' :: m₁ :: m₂ :: ':' :: s₁ :: s₂ :: rest =>
      isBetween 0 23 [h₁, h₂] && isBetween 0 59 [m₁, m₂] && isBetween 0 60 [s₁, s₂] &&
        isSecondFraction rest
  | _ => false

def isOffset : List Char → Bool
  | [c] => c == 'Z' || c == 'z'
  | [c, h₁, h₂, ':', m₁, m₂] =>
      (c == '+' || c == '-') && isBetween 0 23 [h₁, h₂] && isBetween 0 59 [m₁, m₂]
  | _ => false

def startsOffset (c : Char) : Bool :=
  c == 'Z' || c == 'z' || c == '+' || c == '-'

/-- A time behind a date, with or without an offset from universal time. -/
def isTimeOfDay (word : List Char) : Bool :=
  let offset := word.dropWhile (!startsOffset ·)
  isTime (word.takeWhile (!startsOffset ·)) && (offset.isEmpty || isOffset offset)

def isDateTime (word : List Char) : Bool :=
  isDate (word.take 10) &&
    match word.drop 10 with
    | c :: rest => (c == 'T' || c == 't') && isTimeOfDay rest
    | [] => true

def number? : List Char → Option Item
  | '0' :: 'x' :: rest => based? 16 rest
  | '0' :: 'o' :: rest => based? 8 rest
  | '0' :: 'b' :: rest => based? 2 rest
  | word => (decimal? word).or (float? word)

def ofWord? (word : List Char) : Option Item :=
  if word = "true".toList then some (.boolean true)
  else if word = "false".toList then some (.boolean false)
  else if isDateTime word || isTime word then some (.dateTime (String.ofList word))
  else number? word

def takeWord (text : List Char) : List Char × List Char :=
  (text.takeWhile isWordChar, text.dropWhile isWordChar)

/-- The word at the front of a text, where a date and a time with a blank between them are one. -/
def read? (text : List Char) : Option (Item × List Char) :=
  let (word, rest) := takeWord text
  match rest with
  | ' ' :: more =>
      let (time, behind) := takeWord more
      if isDate word && isTimeOfDay time then
        some (.dateTime (String.ofList (word ++ ' ' :: time)), behind)
      else (ofWord? word).map (·, rest)
  | _ => (ofWord? word).map (·, rest)

end Dimensional.Toml.Scalar
