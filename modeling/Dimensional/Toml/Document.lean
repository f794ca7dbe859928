import Dimensional.Toml.Value

/-!
TOML documents: lines, each of which opens a table or adds an entry to the one that is open.
-/

namespace Dimensional.Toml

inductive Statement where
  /-- The header `[a.b]`. -/
  | header (path : List String)
  /-- The header `[[a.b]]`. -/
  | element (path : List String)
  | entry (key : List String) (item : Item)

namespace Statement

def read? : Reader (Option Statement) := fun text =>
  match text with
  | '[' :: '[' :: rest =>
      match Key.read? rest with
      | some (path, ']' :: ']' :: rest) => some (some (element path), rest)
      | _ => none
  | '[' :: rest =>
      match Key.read? rest with
      | some (path, ']' :: rest) => some (some (header path), rest)
      | _ => none
  | '#' :: _ | '\n' :: _ | '\r' :: _ | [] => some (none, text)
  | _ =>
      (Value.member? (Value.read? Key.maxDepth) text).map fun ((key, item), rest) =>
        (some (entry key item), rest)

end Statement

/-- Blanks, a comment and the end of the line or of the text. -/
def endLine? (text : List Char) : Option (List Char) :=
  let rest :=
    match skipGap text with
    | '#' :: rest => skipComment rest
    | rest => rest
  if rest.isEmpty then some [] else newline? rest

def statements? (text : List Char) : Option (List Statement) :=
  if text.isEmpty then some []
  else
    match Statement.read? (skipGap text) with
    | none => none
    | some (statement, rest) =>
        match endLine? rest with
        | none => none
        | some rest =>
            if rest.length < text.length then (statements? rest).map (statement.toList ++ ·)
            else none
termination_by text.length

/-- A document that is being read: all that was read, and the header that is open. -/
structure Draft where
  root : Table
  header : List String

def Draft.obey (draft : Draft) : Statement → Option Draft
  | .header path => (Table.openHeader path draft.root).map (⟨·, path⟩)
  | .element path => (Table.extendHeader path draft.root).map (⟨·, path⟩)
  | .entry key item =>
      (Table.assignBelow draft.header key item draft.root).map (⟨·, draft.header⟩)

def ofStatements? (statements : List Statement) : Option Table :=
  (statements.foldlM Draft.obey ⟨[], []⟩).map (·.root)

/-- A byte order mark may stand at the front only. -/
def dropMark : List Char → List Char
  | '\ufeff' :: rest => rest
  | text => text

def read? (text : List Char) : Option Table := do
  ofStatements? (← statements? (dropMark text))

def text? (text : List Char) (path : List String) : Option String := do
  ((← read? text).at? path) >>= Item.text?

end Dimensional.Toml
