import Dimensional.Toml.Quoted
import Dimensional.Toml.Scalar
import Dimensional.Toml.Table

/-!
TOML values.
-/

namespace Dimensional.Toml

def skipComment (text : List Char) : List Char :=
  text.dropWhile isPlain

theorem length_skipComment_le (text : List Char) : (skipComment text).length ≤ text.length :=
  (List.dropWhile_suffix isPlain).length_le

def skipSpace (text : List Char) : List Char :=
  match text with
  | '\n' :: rest => skipSpace rest
  | '\r' :: '\n' :: rest => skipSpace rest
  | '#' :: rest =>
      have := length_skipComment_le rest
      skipSpace (skipComment rest)
  | c :: rest => if isGap c then skipSpace rest else c :: rest
  | [] => []
termination_by text.length

namespace Value

def simple? : Reader Item := fun text =>
  match text with
  | '"' :: _ | '\'' :: _ =>
      (Quoted.read? text).map fun (body, rest) => (.string (String.ofList body), rest)
  | _ => Scalar.read? text

/-- The rest of an array, from where an element may begin. -/
def elements? (item? : Reader Item) (text : List Char) : Option (List Item × List Char) :=
  match skipSpace text with
  | ']' :: rest => some ([], rest)
  | start =>
      match item? start with
      | none => none
      | some (item, rest) =>
          match skipSpace rest with
          | ']' :: rest => some ([item], rest)
          | ',' :: rest =>
              if rest.length < text.length then
                (elements? item? rest).map fun (items, rest) => (item :: items, rest)
              else none
          | _ => none
termination_by text.length

def member? (item? : Reader Item) : Reader (List String × Item) := fun text => do
  let (key, rest) ← Key.read? text
  match rest with
  | '=' :: rest => do
      let (item, rest) ← item? (skipGap rest)
      some ((key, item), rest)
  | _ => none

/-- The rest of a table in braces, from where a member must begin. -/
def members? (item? : Reader Item) (text : List Char) :
    Option (List (List String × Item) × List Char) :=
  match member? item? text with
  | none => none
  | some (member, rest) =>
      match skipGap rest with
      | '\x7d' :: rest => some ([member], rest)
      | ',' :: rest =>
          if rest.length < text.length then
            (members? item? rest).map fun (members, rest) => (member :: members, rest)
          else none
      | _ => none
termination_by text.length

def braced? (item? : Reader Item) : Reader Item := fun text =>
  match skipGap text with
  | '\x7d' :: rest => some (.table .inline [], rest)
  | text => do
      let (members, rest) ← members? item? text
      let table ← Table.ofMembers members
      some (.table .inline table, rest)

/-- A value in which `depth` more brackets or braces may be open at once. -/
def read? : (depth : Nat) → Reader Item
  | 0 => simple?
  | depth + 1 => fun text =>
      match text with
      | '[' :: rest => (elements? (read? depth) rest).map fun (items, rest) => (.array items, rest)
      | '\x7b' :: rest => braced? (read? depth) rest
      | text => simple? text

end Value

end Dimensional.Toml
