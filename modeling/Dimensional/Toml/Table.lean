import Dimensional.Toml.Item

/-!
Building tables from headers and keys.  A table is opened by a header once only, and what is in
braces is closed for good.
-/

namespace Dimensional.Toml.Table

/-- Changes the table at the end of a path.  Tables that are missing on the way are made, of kind
`made`; the last of an array of tables stands for the array. -/
def within (made : TableKind) (edit : TableKind → Table → Option Table) :
    (path : List String) → (kind : TableKind) → (table : Table) → Option Table
  | [], kind, table => edit kind table
  | key :: path, _, table =>
      match table.find? key with
      | none => (within made edit path made []).map fun inner => table.put key (.table made inner)
      | some (.table kind inner) =>
          if kind = .inline ∨ (made = .dotted ∧ kind = .explicit) then none
          else (within made edit path kind inner).map fun inner => table.put key (.table kind inner)
      | some (.tables elements) =>
          match elements.getLast? with
          | none => none
          | some last =>
              (within made edit path .explicit last).map fun last =>
                table.put key (.tables (elements.dropLast ++ [last]))
      | some _ => none

/-- Adds a key that is new.  What dotted keys have made takes keys from dotted keys only, and the
other tables from plain keys only. -/
def add (plain : Bool) (key : String) (item : Item) (kind : TableKind) (table : Table) :
    Option Table :=
  if (kind == .dotted) = plain then none
  else
    match table.find? key with
    | none => some (table.put key item)
    | some _ => none

def unsnoc? (path : List String) : Option (List String × String) :=
  path.getLast?.map fun key => (path.dropLast, key)

/-- The entry `a.b.c = item`. -/
def assign (key : List String) (item : Item) (kind : TableKind) (table : Table) : Option Table := do
  let (path, key) ← unsnoc? key
  within .dotted (add path.isEmpty key item) path kind table

def ofMembers (members : List (List String × Item)) : Option Table :=
  members.foldlM (fun table (key, item) => assign key item .explicit table) []

/-- Opens the table under a key, which must be new or only have been passed through. -/
def openAt (key : String) (_ : TableKind) (table : Table) : Option Table :=
  match table.find? key with
  | none => some (table.put key (.table .explicit []))
  | some (.table .implicit inner) => some (table.put key (.table .explicit inner))
  | some _ => none

/-- Adds an empty element to the array of tables under a key. -/
def extendAt (key : String) (_ : TableKind) (table : Table) : Option Table :=
  match table.find? key with
  | none => some (table.put key (.tables [[]]))
  | some (.tables elements) => some (table.put key (.tables (elements ++ [[]])))
  | some _ => none

/-- The header `[a.b.c]`. -/
def openHeader (path : List String) (table : Table) : Option Table := do
  let (path, key) ← unsnoc? path
  within .implicit (openAt key) path .explicit table

/-- The header `[[a.b.c]]`. -/
def extendHeader (path : List String) (table : Table) : Option Table := do
  let (path, key) ← unsnoc? path
  within .implicit (extendAt key) path .explicit table

def assignBelow (header key : List String) (item : Item) (table : Table) : Option Table :=
  within .implicit (assign key item) header .explicit table

end Dimensional.Toml.Table
