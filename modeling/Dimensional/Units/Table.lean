import Dimensional.Number.Reading
import Dimensional.Number.Layout
import Dimensional.Text.Blank
import Dimensional.Text.Lines
import Dimensional.Text.Quoted
import Dimensional.Units.Registry

/-!
Unit tables: twelve comma-separated columns a line, read into rows and written out as the source
text of a constant.  Blank lines and lines that start with `#` count for the numbering only.
-/

namespace Dimensional.Units.Table

open Text

structure Row where
  symbol : List Char
  name : List Char
  exponents : Vector Int 8
  scale : List Char
  prefixable : Bool
deriving DecidableEq

inductive Fault where
  | unreadable
  | columns (line found : Nat)
  | exponent (line : Nat) (raw : List Char)
  | flag (line : Nat) (raw : List Char)
  | duplicate (symbol : List Char)
deriving DecidableEq

def place (line : Nat) : String :=
  "units.csv:" ++ toString line ++ ": "

namespace Fault

def message : Fault → String
  | unreadable =>
      "Failed to read units.csv: Os \x7b code: 2, kind: NotFound, message: " ++
        "\"No such file or directory\" \x7d"
  | columns line found =>
      place line ++ "expected 12 columns, found " ++ toString found
  | exponent line raw => place line ++ "bad exponent " ++ String.ofList (quote raw)
  | flag line raw => place line ++ "bad prefixable flag " ++ String.ofList (quote raw)
  | duplicate symbol => "units.csv: duplicate symbol " ++ String.ofList (quote symbol)

end Fault

def exponentField (line : Nat) (raw : List Char) : Except Fault Int :=
  match Number.int32? raw with
  | some n => .ok n
  | none => .error (.exponent line raw)

def flagField (line : Nat) (raw : List Char) : Except Fault Bool :=
  if raw = "true".toList then .ok true
  else if raw = "false".toList then .ok false
  else .error (.flag line raw)

/-- The row on a line; exponents are looked at from left to right and before the flag. -/
def row (line : Nat) (text : List Char) : Except Fault Row :=
  match (splitAt ',' text).map trim with
  | [symbol, name, e₀, e₁, e₂, e₃, e₄, e₅, e₆, e₇, scale, flag] => do
      let e₀ ← exponentField line e₀
      let e₁ ← exponentField line e₁
      let e₂ ← exponentField line e₂
      let e₃ ← exponentField line e₃
      let e₄ ← exponentField line e₄
      let e₅ ← exponentField line e₅
      let e₆ ← exponentField line e₆
      let e₇ ← exponentField line e₇
      let prefixable ← flagField line flag
      return ⟨symbol, name, #v[e₀, e₁, e₂, e₃, e₄, e₅, e₆, e₇], scale, prefixable⟩
  | fields => .error (.columns line fields.length)

def isRow : List Char → Bool
  | [] => false
  | c :: _ => c != '#'

/-- The trimmed lines that hold rows, each with its number. -/
def rowLines (content : List Char) : List (List Char × Nat) :=
  (((splitAt '\n' content).map trim).zipIdx 1).filter fun (text, _) => isRow text

/-- The symbol of the first row that repeats an earlier one. -/
def repeated? (seen : List (List Char)) : List Row → Option (List Char)
  | [] => none
  | row :: rest =>
      if row.symbol ∈ seen then some row.symbol else repeated? (row.symbol :: seen) rest

def rows (content : List Char) : Except Fault (List Row) := do
  let rows ← (rowLines content).mapM fun (text, line) => row line text
  match repeated? [] rows with
  | some symbol => .error (.duplicate symbol)
  | none => return rows

def intList (exponents : Vector Int 8) : List Char :=
  [',', ' '].intercalate (exponents.toList.map Number.intText)

def boolText (b : Bool) : List Char :=
  if b then "true".toList else "false".toList

def rowText (row : Row) : List Char :=
  "    UnitRow \x7b\n        symbol: ".toList ++ quote row.symbol ++
    ",\n        name: ".toList ++ quote row.name ++
    ",\n        exponents: [".toList ++ intList row.exponents ++
    "],\n        scale: ".toList ++ row.scale ++
    ",\n        prefixable: ".toList ++ boolText row.prefixable ++
    ",\n    \x7d,\n".toList

def text (rows : List Row) : List Char :=
  "// Auto-generated from units.csv\n&[\n".toList ++ rows.flatMap rowText ++ "]\n".toList

def announcement : String :=
  "cargo:rerun-if-changed=units.csv\n"

def generate (content : Option String) : Except Fault String :=
  match content with
  | none => .error .unreadable
  | some content => do
      let rows ← rows content.toList
      return String.ofList (text rows)

/-- The unit that a row describes, where `value` says what number a scale stands for. -/
def Row.entry (value : List Char → Float) (row : Row) : Entry where
  symbol := String.ofList row.symbol
  name := String.ofList row.name
  dimension := .ofInts row.exponents
  scale := value row.scale
  prefixable := row.prefixable

def registry (value : List Char → Float) (rows : List Row) : Registry :=
  .ofEntries (rows.map (·.entry value))

end Dimensional.Units.Table
