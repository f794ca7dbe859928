import Dimensional.Json.Value
import Dimensional.Number.Reading
import Dimensional.Text.Characters

/-!
Reading JSON text.  How a decimal is rounded to a float is left open, as readers differ in the last
bit; `Number.ofParts` rounds to the nearest.
-/

namespace Dimensional.Json

def isSpace (c : Char) : Bool :=
  c == ' ' || c == '\n' || c == '\t' || c == '\r'

def skipSpace (text : List Char) : List Char :=
  text.dropWhile isSpace

def unit16? : List Char → Option (Nat × List Char)
  | a :: b :: c :: d :: rest => do
      let a ← Text.hexValue? a
      let b ← Text.hexValue? b
      let c ← Text.hexValue? c
      let d ← Text.hexValue? d
      some (((a * 16 + b) * 16 + c) * 16 + d, rest)
  | _ => none

def isHighSurrogate (n : Nat) : Bool :=
  0xd800 ≤ n && n ≤ 0xdbff

def isLowSurrogate (n : Nat) : Bool :=
  0xdc00 ≤ n && n ≤ 0xdfff

/-- What stands behind `\u`: one unit, or a pair of surrogates.  Half a pair is refused. -/
def unicodeEscape? (text : List Char) : Option (Char × List Char) := do
  let (high, rest) ← unit16? text
  if isHighSurrogate high then
    match rest with
    | '\\' :: 'u' :: rest => do
        let (low, rest) ← unit16? rest
        if isLowSurrogate low then
          some (Char.ofNat (0x10000 + (high - 0xd800) * 0x400 + (low - 0xdc00)), rest)
        else none
    | _ => none
  else if isLowSurrogate high then none
  else some (Char.ofNat high, rest)

def simpleEscape? : Char → Option Char
  | '"' => some '"'
  | '\\' => some '\\'
  | '/' => some '/'
  | 'b' => some '\x08'
  | 'f' => some '\x0c'
  | 'n' => some '\n'
  | 'r' => some '\r'
  | 't' => some '\t'
  | _ => none

/-- One character of a string, escaped or not; control characters must be escaped. -/
def stringChar? : List Char → Option (Char × List Char)
  | '\\' :: 'u' :: rest => unicodeEscape? rest
  | '\\' :: c :: rest => (simpleEscape? c).map (·, rest)
  | c :: rest => if c = '\\' ∨ c.toNat < 0x20 then none else some (c, rest)
  | [] => none

def stringBody? (text : List Char) : Option (List Char × List Char) :=
  match text with
  | '"' :: rest => some ([], rest)
  | text =>
      match stringChar? text with
      | none => none
      | some (c, rest) =>
          if rest.length < text.length then
            (stringBody? rest).map fun (body, rest) => (c :: body, rest)
          else none
termination_by text.length

def digits (text : List Char) : List Char × List Char :=
  (text.takeWhile Char.isDigit, text.dropWhile Char.isDigit)

/-- The digits behind a point, of which there must be one. -/
def fraction? : List Char → Option (Option (List Char) × List Char)
  | '.' :: rest =>
      let (places, rest) := digits rest
      if places.isEmpty then none else some (some places, rest)
  | text => some (none, text)

def exponentDigits? (negative : Bool) (text : List Char) : Option (Option Int × List Char) :=
  let (places, rest) := digits text
  if places.isEmpty then none
  else
    let n : Int := Number.natOfDigits places
    some (some (if negative then -n else n), rest)

def exponent? : List Char → Option (Option Int × List Char)
  | c :: rest =>
      if c = 'e' ∨ c = 'E' then
        match rest with
        | '-' :: rest => exponentDigits? true rest
        | '+' :: rest => exponentDigits? false rest
        | rest => exponentDigits? false rest
      else some (none, c :: rest)
  | [] => some (none, [])

/-- The float for a sign, the digits of a decimal and the power of ten that they are scaled by. -/
abbrev Rounding := (negative : Bool) → (digits : Nat) → (exponent : Int) → Float

section Rounded

variable (round : Rounding)

/-- Whole numbers that fit in 64 bits are integers; negative zero does not. -/
def wholeNumber (negative : Bool) (n : Nat) : Value :=
  if negative then
    if n = 0 ∨ 0x8000000000000000 < n then .float (round true n 0) else .integer (-n)
  else if n < 0x10000000000000000 then .integer n
  else .float (round false n 0)

/-- A number that is too large for a float is no number. -/
def bounded? (value : Value) : Option Value :=
  match value with
  | .float x => if x.isInf then none else some value
  | _ => some value

def unsignedNumber? (negative : Bool) (text : List Char) : Option (Value × List Char) := do
  let (whole, rest) := digits text
  if whole.isEmpty ∨ (whole.head? = some '0' ∧ whole.length ≠ 1) then none
  let (places, rest) ← fraction? rest
  let (exponent, rest) ← exponent? rest
  let value ← bounded? <|
    match places, exponent with
    | none, none => wholeNumber round negative (Number.natOfDigits whole)
    | _, _ =>
        let places := places.getD []
        .float (round negative (Number.natOfDigits (whole ++ places))
          (exponent.getD 0 - places.length))
  some (value, rest)

/-- The value that a keyword stands for, if the text goes on with it. -/
def keyword? (word : String) (value : Value) (text : List Char) : Option (Value × List Char) :=
  if word.toList.isPrefixOf text then some (value, text.drop word.length) else none

/-- A value, or the opening bracket of an array or an object. -/
def value? : List Char → Option (Value × List Char)
  | [] => none
  | c :: rest =>
      match c with
      | 'n' => keyword? "null" .null (c :: rest)
      | 't' => keyword? "true" (.bool true) (c :: rest)
      | 'f' => keyword? "false" (.bool false) (c :: rest)
      | '"' => (stringBody? rest).map fun (body, rest) => (.string body, rest)
      | '[' => some (.array, rest)
      | '\x7b' => some (.object, rest)
      | '-' => unsignedNumber? round true rest
      | c => if c.isDigit then unsignedNumber? round false (c :: rest) else none

def afterColon? (text : List Char) : Option (Value × List Char) :=
  match skipSpace text with
  | ':' :: rest => value? round (skipSpace rest)
  | _ => none

/-- What follows where a member may begin. -/
inductive Turn where
  /-- The closing brace, and the text behind it. -/
  | closed (rest : List Char)
  /-- The opening quote of a key, and the text behind it. -/
  | key (rest : List Char)
  | malformed

def keyTurn (text : List Char) : Turn :=
  match skipSpace text with
  | '"' :: rest => .key rest
  | _ => .malformed

def firstTurn (text : List Char) : Turn :=
  match skipSpace text with
  | '\x7d' :: rest => .closed rest
  | text => keyTurn text

/-- A comma must lead to another key. -/
def nextTurn (text : List Char) : Turn :=
  match skipSpace text with
  | '\x7d' :: rest => .closed rest
  | ',' :: rest => keyTurn rest
  | _ => .malformed

/-- The members of an object, from behind the opening quote of a key on. -/
def members (text : List Char) : Members :=
  match stringBody? text with
  | none => .malformed
  | some (key, rest) =>
      match afterColon? round rest with
      | none => .dangling key
      | some (.array, _) => .member key .array .malformed
      | some (.object, _) => .member key .object .malformed
      | some (value, rest) =>
          match nextTurn rest with
          | .closed rest => .member key value (.closed rest)
          | .malformed => .member key value .malformed
          | .key rest =>
              if rest.length < text.length then .member key value (members rest)
              else .member key value .malformed
termination_by text.length

def firstMembers (text : List Char) : Members :=
  match firstTurn text with
  | .closed rest => .closed rest
  | .key rest => members round rest
  | .malformed => .malformed

end Rounded

end Dimensional.Json
