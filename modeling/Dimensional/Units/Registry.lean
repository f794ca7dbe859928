import Dimensional.Units.Measure

/-!
The named units and how a symbol finds its unit: by its exact name, else as a prefix character in
front of a unit that takes prefixes.
-/

namespace Dimensional.Units

structure Entry where
  symbol : String
  name : String
  dimension : Dimension
  scale : Float
  prefixable : Bool

namespace Entry

def measure (entry : Entry) : Measure :=
  ⟨entry.dimension, entry.scale⟩

/-- Scales only: no unit shifts its zero. -/
def offset (_ : Entry) : Float := 0.0

end Entry

structure Registry where
  entries : List Entry

namespace Registry

/-- An entry takes the place of the one with its symbol, if there is one. -/
def insert (registry : Registry) (entry : Entry) : Registry :=
  ⟨registry.entries.filter (·.symbol != entry.symbol) ++ [entry]⟩

def ofEntries (entries : List Entry) : Registry :=
  entries.foldl insert ⟨[]⟩

def size (registry : Registry) : Nat :=
  registry.entries.length

def isEmpty (registry : Registry) : Bool :=
  registry.entries.isEmpty

def find? (registry : Registry) (symbol : String) : Option Entry :=
  registry.entries.find? (·.symbol == symbol)

def findPrefix? (symbol : String) : Option Prefix :=
  match symbol.toList with
  | [c] => Prefix.ofChar? c
  | _ => none

/-- The prefix and the unit that a symbol is made of, whether or not it names a unit itself. -/
def split? (registry : Registry) (symbol : String) : Option (Prefix × Entry) :=
  match symbol.toList with
  | c :: d :: rest => do
      let head ← Prefix.ofChar? c
      let entry ← registry.find? (String.ofList (d :: rest))
      if entry.prefixable then some (head, entry) else none
  | _ => none

def resolve (registry : Registry) (symbol : String) : Option Measure :=
  match registry.find? symbol with
  | some entry => some entry.measure
  | none =>
      (registry.split? symbol).map fun (head, entry) =>
        ⟨entry.dimension, head.multiplier * entry.scale⟩

def sorted (registry : Registry) : List Entry :=
  registry.entries.mergeSort fun a b => a.symbol ≤ b.symbol

end Registry

end Dimensional.Units
