import Dimensional.Number.Reading
import Dimensional.Text.Alphabetic
import Dimensional.Text.Blank
import Dimensional.Units.Fault
import Dimensional.Units.Registry

/-!
Reading unit expressions.  Groups are joined by `*` and `/`, each of which applies to the next
group only; a group is a run of factors joined by `-`; a factor is `1`, a symbol or a parenthesised
expression, to some power.
-/

namespace Dimensional.Units

open Text

/-- Takes something from the front of a text and leaves the rest. -/
abbrev Reader (α : Type) := List Char → Except Fault (α × List Char)

def fault {α : Type} (cause : Fault.Cause) (rest : List Char) : Except Fault α :=
  .error ⟨cause, rest⟩

def missing {α : Type} (wanted : Wanted) (rest : List Char) : Except Fault α :=
  match rest with
  | [] => fault (.ended wanted) []
  | c :: rest => fault (.missing wanted c) (c :: rest)

namespace Reader

/-- Takes steps as long as one is found.  A step that takes nothing from the text is the last. -/
def repeated {α : Type} (step : α → List Char → Except Fault (Option (α × List Char)))
    (a : α) (text : List Char) : Except Fault (α × List Char) :=
  match step a text with
  | .error f => .error f
  | .ok none => .ok (a, text)
  | .ok (some (b, rest)) =>
      if rest.length < text.length then repeated step b rest else .ok (b, rest)
termination_by text.length

/-- The largest number an exponent may be written with. -/
def maxLiteral : Nat := 2147483647

def unsigned : Reader Nat := fun text =>
  let digits := text.takeWhile Char.isDigit
  if digits.isEmpty then missing .exponent text
  else if Number.natOfDigits digits ≤ maxLiteral then
    .ok (Number.natOfDigits digits, text.dropWhile Char.isDigit)
  else fault (.exponentTooLarge digits) text

def signed : Reader Int
  | '-' :: rest => do
      let (n, rest) ← unsigned rest
      return (-(n : Int), rest)
  | '+' :: rest => do
      let (n, rest) ← unsigned rest
      return ((n : Int), rest)
  | text => do
      let (n, rest) ← unsigned text
      return ((n : Int), rest)

def close (wanted : Wanted) (text : List Char) : Except Fault (List Char) :=
  match trimStart text with
  | ')' :: rest => .ok rest
  | rest => missing wanted rest

def denominator : Reader Nat := fun text =>
  match trimStart text with
  | '/' :: rest => unsigned (trimStart rest)
  | rest => .ok (1, rest)

/-- What stands behind `^`: an integer, or a fraction in parentheses. -/
def exponent : Reader Rat := fun text =>
  match trimStart text with
  | '(' :: rest => do
      let (n, rest) ← signed (trimStart rest)
      let (d, rest) ← denominator rest
      let rest ← close .closingExponent rest
      if d = 0 then fault .zeroDenominator rest else return (mkRat n d, rest)
  | rest => do
      let (n, rest) ← signed rest
      return ((n : Rat), rest)

/-- The result of combining measures, unless an exponent leaves its range. -/
def inRange (result : Option Measure) (rest : List Char) : Except Fault (Measure × List Char) :=
  match result with
  | some m => .ok (m, rest)
  | none => fault .exponentOverflow rest

/-- A factor with the exponent that follows it, if one does. -/
def powered (m : Measure) : Reader Measure := fun text =>
  match trimStart text with
  | '^' :: rest => do
      let (e, rest) ← exponent rest
      inRange (m.power? e) rest
  | _ => .ok (m, text)

/-- A symbol may have its exponent right behind it, without a `^`. -/
def symbolPowered (m : Measure) : Reader Measure := fun text =>
  match text with
  | c :: _ =>
      if c.isDigit then do
        let (n, rest) ← unsigned text
        inRange (m.power? n) rest
      else powered m text
  | [] => .ok (m, [])

def symbol (registry : Registry) : Reader Measure := fun text =>
  let name := text.takeWhile isAlphabetic
  match registry.resolve (String.ofList name) with
  | some m => symbolPowered m (text.dropWhile isAlphabetic)
  | none => fault (.unknownSymbol name) text

def number : Reader Measure := fun text =>
  let digits := text.takeWhile Char.isDigit
  if digits = ['1'] then powered .one (text.dropWhile Char.isDigit)
  else fault (.bareNumber digits) text

/-- A factor, where `inner` reads what stands in parentheses; there is none when no further
parenthesis may be opened. -/
def factorWith (registry : Registry) (inner : Option (Reader Measure)) : Reader Measure :=
  fun text =>
    match trimStart text with
    | [] => missing .factor []
    | c :: rest =>
        if c = '(' then
          match inner with
          | none => fault .nestedTooDeeply (c :: rest)
          | some read => do
              let (m, rest) ← read rest
              let rest ← close .closing rest
              powered m rest
        else if c.isDigit then number (c :: rest)
        else if isAlphabetic c then symbol registry (c :: rest)
        else missing .factor (c :: rest)

def hyphenStep (factor : Reader Measure) (acc : Measure) (text : List Char) :
    Except Fault (Option (Measure × List Char)) :=
  match trimStart text with
  | '-' :: rest => do
      let (m, rest) ← factor rest
      return some (← inRange (acc.mul? m) rest)
  | _ => .ok none

def group (factor : Reader Measure) : Reader Measure := fun text => do
  let (m, rest) ← factor text
  repeated (hyphenStep factor) m rest

def productStep (factor : Reader Measure) (acc : Measure) (text : List Char) :
    Except Fault (Option (Measure × List Char)) :=
  match trimStart text with
  | '*' :: rest => do
      let (m, rest) ← group factor rest
      return some (← inRange (acc.mul? m) rest)
  | '/' :: rest => do
      let (m, rest) ← group factor rest
      return some (← inRange (acc.div? m) rest)
  | _ => .ok none

def expression (factor : Reader Measure) : Reader Measure := fun text => do
  let (m, rest) ← group factor text
  repeated (productStep factor) m rest

/-- A factor in which `depth` more parentheses may be opened. -/
def factor (registry : Registry) : (depth : Nat) → Reader Measure
  | 0 => factorWith registry none
  | depth + 1 => factorWith registry (some (expression (factor registry depth)))

end Reader

namespace Registry

/-- How many parentheses may be open at once. -/
def maxDepth : Nat := 64

/-- A blank expression is the unitless unit. -/
def read (registry : Registry) (text : List Char) : Except Fault Measure :=
  if text.all isBlank then .ok .one
  else do
    let (m, rest) ← Reader.expression (Reader.factor registry maxDepth) text
    match trimStart rest with
    | [] => return m
    | c :: rest => fault (.unexpected c) (c :: rest)

def parse (registry : Registry) (unit : String) : Except Failure Measure :=
  match registry.read unit.toList with
  | .ok m => .ok m
  | .error f => .error (f.failure unit)

end Registry

end Dimensional.Units
