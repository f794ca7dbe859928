import Dimensional.Number.Layout
import Dimensional.Text.Quoted

/-!
JSON values as far as a flat object needs them: arrays and objects are known by their kind only.
-/

namespace Dimensional.Json

inductive Value where
  | null
  | bool (b : Bool)
  | integer (n : Int)
  | float (x : Float)
  | string (text : List Char)
  | array
  | object

namespace Value

def number? : Value → Option Float
  | integer n => some (Float.ofInt n)
  | float x => some x
  | _ => none

def string? : Value → Option (List Char)
  | string text => some text
  | _ => none

/-- How a float is named: its plain digits, with a point at all events. -/
def floatName (x : Float) : List Char :=
  let digits := Number.plain.render x
  if digits.contains '.' then digits else digits ++ ['.', '0']

def description : Value → String
  | null => "null"
  | bool b => "boolean `" ++ (if b then "true" else "false") ++ "`"
  | integer n => "integer `" ++ String.ofList (Number.intText n) ++ "`"
  | float x => "floating point `" ++ String.ofList (floatName x) ++ "`"
  | string text => "string " ++ String.ofList (Text.quote text)
  | array => "sequence"
  | object => "map"

end Value

/-- The members of an object in the order of the text, as far as they can be read. -/
inductive Members where
  /-- The closing brace, and the text behind it. -/
  | closed (rest : List Char)
  | malformed
  /-- A key without a readable value. -/
  | dangling (key : List Char)
  | member (key : List Char) (value : Value) (next : Members)

end Dimensional.Json
