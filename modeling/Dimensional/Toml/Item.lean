/-!
TOML items and tables.  A table keeps its entries in the order in which they were added.
-/

namespace Dimensional.Toml

/-- How a table came to be, which decides what may be added to it later. -/
inductive TableKind where
  /-- By a header of its own, or the whole document. -/
  | explicit
  /-- On the way to a header. -/
  | implicit
  /-- On the way to the last part of a dotted key. -/
  | dotted
  /-- In braces. -/
  | inline
deriving DecidableEq, Repr

inductive Item where
  | string (text : String)
  | integer (n : Int)
  | float (x : Float)
  | boolean (b : Bool)
  /-- A date, a time or both, as it is written. -/
  | dateTime (written : String)
  | array (items : List Item)
  | table (kind : TableKind) (entries : List (String × Item))
  /-- The elements under headers in double brackets. -/
  | tables (elements : List (List (String × Item)))

abbrev Table := List (String × Item)

namespace Table

def find? (table : Table) (key : String) : Option Item :=
  table.lookup key

/-- Replaces the item under a key, or adds it at the end. -/
def put (table : Table) (key : String) (item : Item) : Table :=
  match table with
  | [] => [(key, item)]
  | (k, i) :: rest => if key = k then (key, item) :: rest else (k, i) :: put rest key item

@[simp] theorem find?_nil (key : String) : find? [] key = none := rfl

theorem find?_cons (k : String) (i : Item) (table : Table) (key : String) :
    find? ((k, i) :: table) key = if key = k then some i else find? table key := by
  simp only [find?, List.lookup_cons]
  by_cases h : key = k
  · simp [h]
  · simp [h, beq_false_of_ne h]

@[simp] theorem find?_put (table : Table) (key : String) (item : Item) (other : String) :
    (table.put key item).find? other = if other = key then some item else table.find? other := by
  induction table with
  | nil => simp [put, find?_cons]
  | cons entry rest ih =>
      obtain ⟨k, i⟩ := entry
      simp only [put]
      split
      · simp_all [find?_cons]
      · grind [find?_cons]

end Table

namespace Item

def find? (item : Item) (key : String) : Option Item :=
  match item with
  | table _ entries => Table.find? entries key
  | _ => none

def text? : Item → Option String
  | string text => some text
  | _ => none

def natural? : Item → Option Nat
  | integer n => n.toNat?
  | _ => none

end Item

/-- The item at the end of a path of keys, none of which may be an element of an array. -/
def Table.at? (table : Table) : (path : List String) → Option Item
  | [] => none
  | key :: path => path.foldlM Item.find? =<< table.find? key

end Dimensional.Toml
