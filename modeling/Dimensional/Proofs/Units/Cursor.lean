import Dimensional.Units.Expression

/-!
Reading a unit expression with a cursor: a byte offset into the text, which is moved on and once
back, and a count of open parentheses, which is kept by hand.  Nothing here holds by construction:
a text may be cut within a character, a loop may go on for ever, and there may be too many calls
within each other.  Then there is no result.
-/

namespace Dimensional

namespace Text

/-- A text cut in two at a byte offset, unless that lies within a character or behind the end. -/
def cutAt? : List Char → Nat → Option (List Char × List Char)
  | text, 0 => some ([], text)
  | [], _ + 1 => none
  | c :: text, n + 1 =>
      if c.utf8Size ≤ n + 1 then
        (cutAt? text (n + 1 - c.utf8Size)).map fun cut => (c :: cut.1, cut.2)
      else none

end Text

namespace Units

open Text

structure Cursor where
  offset : Nat
  depth : Nat

/-- A failure leaves the cursor where it has come to. -/
abbrev Walk (α : Type) := ExceptT Failure (StateT Cursor Option) α

namespace Walk

def stuck {α : Type} : Walk α :=
  fun _ => none

/-- Goes on as long as a round comes to something, where there may be so many of them. -/
def loopUpTo {α : Type} (round : α → Walk (Option α)) : (rounds : Nat) → α → Walk α
  | 0, _ => stuck
  | rounds + 1, a => do
      match ← round a with
      | some b => loopUpTo round rounds b
      | none => return a

open Classical in
/-- As many rounds as it takes.  Where no number of them is enough, there is no result. -/
noncomputable def loop {α : Type} (round : α → Walk (Option α)) (a : α) : Walk α := fun cursor =>
  if enough : ∃ rounds, (loopUpTo round rounds a cursor).isSome then
    loopUpTo round enough.choose a cursor
  else none

def offset : Walk Nat := do
  return (← get).offset

def moveTo (offset : Nat) : Walk Unit :=
  modify fun cursor => { cursor with offset := offset }

def pass (c : Char) : Walk Unit := do
  moveTo ((← offset) + c.utf8Size)

def enter : Walk Unit :=
  modify fun cursor => { cursor with depth := cursor.depth + 1 }

/-- No count goes below zero. -/
def leave : Walk Unit := do
  match (← get).depth with
  | 0 => stuck
  | depth + 1 => modify fun cursor => { cursor with depth := depth }

variable (unit : String)

def refuse {α : Type} (reason : SyntaxReason) : Walk α :=
  throw (.invalidUnitSyntax unit reason)

/-- The text from the cursor on. -/
def ahead : Walk (List Char) := fun cursor =>
  (cutAt? unit.toList cursor.offset).map fun cut => (.ok cut.2, cursor)

/-- The text from an earlier offset to the cursor. -/
def since (start : Nat) : Walk (List Char) := fun cursor =>
  (cutAt? unit.toList cursor.offset).bind fun cut =>
    (cutAt? cut.1 start).map fun part => (.ok part.2, cursor)

def peek : Walk (Option Char) := do
  return (← ahead unit).head?

def bump : Walk Unit := do
  match ← peek unit with
  | some c => pass c
  | none => return ()

def passOne (among : Char → Bool) : Walk (Option Unit) := do
  match ← peek unit with
  | some c => if among c then pass c; return some () else return none
  | none => return none

noncomputable section

def takeWhile (among : Char → Bool) : Walk (List Char) := do
  let start ← offset
  loop (fun _ => passOne unit among) ()
  since unit start

def skipBlanks : Walk Unit := do
  let _ ← takeWhile unit isBlank

/-- What was wanted at an offset does not come next. -/
def refuseMissing {α : Type} (wanted : Wanted) (place : Nat) : Walk α := do
  match ← peek unit with
  | some c => refuse unit (.missing wanted c place)
  | none => refuse unit (.ended wanted)

def expect (want : Char) (wanted : Wanted) : Walk Unit := do
  skipBlanks unit
  if (← peek unit) = some want then bump unit
  else refuseMissing unit wanted (← offset)

def inRange (result : Option Measure) : Walk Measure :=
  match result with
  | some m => return m
  | none => refuse unit .exponentOverflow

def unsignedInteger : Walk Nat := do
  let start ← offset
  let digits ← takeWhile unit Char.isDigit
  if digits.isEmpty then refuseMissing unit .exponent start
  else if Number.natOfDigits digits ≤ Reader.maxLiteral then return Number.natOfDigits digits
  else refuse unit (.exponentTooLarge (String.ofList digits))

def isNegative : Walk Bool := do
  let head ← peek unit
  if head = some '-' then bump unit; return true
  else if head = some '+' then bump unit; return false
  else return false

def signedInteger : Walk Int := do
  let negative ← isNegative unit
  let magnitude ← unsignedInteger unit
  return if negative then -(magnitude : Int) else magnitude

def denominator : Walk Nat := do
  skipBlanks unit
  if (← peek unit) = some '/' then
    bump unit
    skipBlanks unit
    unsignedInteger unit
  else return 1

def fraction : Walk (Int × Nat) := do
  skipBlanks unit
  let n ← signedInteger unit
  let d ← denominator unit
  return (n, d)

def exponent : Walk Rat := do
  skipBlanks unit
  if (← peek unit) = some '(' then
    bump unit
    let e ← fraction unit
    expect unit ')' .closingExponent
    if e.2 = 0 then refuse unit .zeroDenominator else return mkRat e.1 e.2
  else
    let n ← signedInteger unit
    return (n : Rat)

/-- Where no power follows, the cursor goes back in front of the white space. -/
def powered (m : Measure) : Walk Measure := do
  let back ← offset
  skipBlanks unit
  if (← peek unit) = some '^' then
    bump unit
    let e ← exponent unit
    inRange unit (m.power? e)
  else
    moveTo back
    return m

def symbolPowered (m : Measure) : Walk Measure := do
  if (← peek unit).any Char.isDigit then
    let n ← unsignedInteger unit
    inRange unit (m.power? n)
  else powered unit m

def number : Walk Measure := do
  let start ← offset
  let digits ← takeWhile unit Char.isDigit
  if digits = ['1'] then powered unit .one
  else refuse unit (.bareNumber (String.ofList digits) start)

variable (registry : Registry)

def symbol : Walk Measure := do
  let name ← takeWhile unit isAlphabetic
  match registry.resolve (String.ofList name) with
  | some m => symbolPowered unit m
  | none => throw (.unknownUnitSymbol unit (String.ofList name))

def parenthesised (inside : Walk Measure) : Walk Measure := do
  if Registry.maxDepth ≤ (← get).depth then refuse unit .nestedTooDeeply
  else
    bump unit
    enter
    let m ← inside
    leave
    expect unit ')' .closing
    powered unit m

def factorWith (inside : Walk Measure) : Walk Measure := do
  skipBlanks unit
  let head ← peek unit
  if head = some '(' then parenthesised unit inside
  else if head.any Char.isDigit then number unit
  else if head.any isAlphabetic then symbol unit registry
  else refuseMissing unit .factor (← offset)

def hyphenRound (factor : Walk Measure) (acc : Measure) : Walk (Option Measure) := do
  skipBlanks unit
  if (← peek unit) = some '-' then
    bump unit
    let m ← factor
    return some (← inRange unit (acc.mul? m))
  else return none

def groupWith (factor : Walk Measure) : Walk Measure := do
  loop (hyphenRound unit factor) (← factor)

def productRound (factor : Walk Measure) (acc : Measure) : Walk (Option Measure) := do
  skipBlanks unit
  let head ← peek unit
  if head = some '*' then
    bump unit
    let m ← groupWith unit factor
    return some (← inRange unit (acc.mul? m))
  else if head = some '/' then
    bump unit
    let m ← groupWith unit factor
    return some (← inRange unit (acc.div? m))
  else return none

def expressionWith (factor : Walk Measure) : Walk Measure := do
  loop (productRound unit factor) (← groupWith unit factor)

/-- An expression, where at most `calls` calls of this reader may be under way at once, this one
included. -/
def expression : (calls : Nat) → Walk Measure
  | 0 => stuck
  | calls + 1 => expressionWith unit (factorWith unit registry (expression calls))

/-- A factor, within which at most `calls` expressions may be under way at once. -/
def factor (calls : Nat) : Walk Measure :=
  factorWith unit registry (expression unit registry calls)

def group (calls : Nat) : Walk Measure :=
  groupWith unit (factor unit registry calls)

def whole (calls : Nat) : Walk Measure := do
  let m ← expression unit registry calls
  skipBlanks unit
  match ← peek unit with
  | some c => refuse unit (.unexpected c (← offset))
  | none => return m

/-- A unit read from its first byte on, outside all parentheses. -/
def parse (calls : Nat) : Option (Except Failure Measure) :=
  if unit.toList.all isBlank then some (.ok .one)
  else (whole unit registry calls ⟨0, 0⟩).map Prod.fst

end

end Walk

end Units

end Dimensional
