import Dimensional.Proofs.Units.Canonical
import Mathlib.Data.List.Nodup

/-!
Registries built from entries of distinct symbols hold every entry.  A symbol finds its own entry
before any prefix is looked at, and a bare symbol is read as what it finds.
-/

namespace Dimensional.Units

/-- Where keys are distinct, a look-up finds exactly what has the key. -/
theorem find?_eq_some_iff_of_nodup {α β : Type} [BEq β] [LawfulBEq β] {key : α → β}
    {items : List α} (distinct : (items.map key).Nodup) {a : α} {b : β} :
    items.find? (key · == b) = some a ↔ a ∈ items ∧ key a = b := by
  constructor
  · intro h
    exact ⟨List.mem_of_find?_eq_some h, by simpa using List.find?_some h⟩
  · rintro ⟨mem, rfl⟩
    have some? : (items.find? (key · == key a)).isSome = true :=
      List.find?_isSome.mpr ⟨a, mem, beq_self_eq_true _⟩
    obtain ⟨other, found⟩ := Option.isSome_iff_exists.mp some?
    have same : key other = key a := by simpa using List.find?_some found
    rw [found, List.inj_on_of_nodup_map distinct (List.mem_of_find?_eq_some found) mem same]

namespace Prefix

theorem nodup_symbols : (all.map (·.symbol)).Nodup := by
  decide

theorem ofChar?_eq_some_iff {c : Char} {p : Prefix} :
    ofChar? c = some p ↔ p ∈ all ∧ p.symbol = c :=
  find?_eq_some_iff_of_nodup nodup_symbols

end Prefix

namespace Registry

section Building

variable {entries : List Entry} {entry : Entry} {symbol : String}

theorem insert_of_fresh {registry : Registry}
    (fresh : entry.symbol ∉ registry.entries.map (·.symbol)) :
    registry.insert entry = ⟨registry.entries ++ [entry]⟩ := by
  have kept : registry.entries.filter (·.symbol != entry.symbol) = registry.entries := by
    refine List.filter_eq_self.mpr fun other mem => bne_iff_ne.mpr fun same => fresh ?_
    exact List.mem_map.mpr ⟨other, mem, same⟩
  rw [insert, kept]

theorem foldl_insert {front : List Entry} (distinct : ((front ++ entries).map (·.symbol)).Nodup) :
    entries.foldl insert ⟨front⟩ = ⟨front ++ entries⟩ := by
  induction entries generalizing front with
  | nil => rw [List.foldl_nil, List.append_nil]
  | cons entry entries ih =>
      have fresh : entry.symbol ∉ front.map (·.symbol) := by
        rw [List.map_append, List.map_cons] at distinct
        intro mem
        exact List.disjoint_of_nodup_append distinct mem List.mem_cons_self
      rw [List.append_cons] at distinct ⊢
      rw [List.foldl_cons, insert_of_fresh fresh, ih distinct]

theorem ofEntries_of_nodup (distinct : (entries.map (·.symbol)).Nodup) :
    ofEntries entries = ⟨entries⟩ :=
  foldl_insert distinct

theorem find?_eq_some_iff {registry : Registry}
    (distinct : (registry.entries.map (·.symbol)).Nodup) :
    registry.find? symbol = some entry ↔ entry ∈ registry.entries ∧ entry.symbol = symbol :=
  find?_eq_some_iff_of_nodup distinct

end Building

section Resolution

variable {registry : Registry} {symbol : String} {m : Measure}

theorem split?_eq_some_iff {head : Prefix} {entry : Entry} :
    registry.split? symbol = some (head, entry) ↔
      ∃ rest, symbol.toList = head.symbol :: rest ∧ rest ≠ [] ∧ head ∈ Prefix.all ∧
        registry.find? (String.ofList rest) = some entry ∧ entry.prefixable = true := by
  unfold split?
  constructor
  · intro h
    split at h
    case h_1 c d rest shape =>
      obtain ⟨p, prefixed, h⟩ := Option.bind_eq_some_iff.mp h
      obtain ⟨unit, found, h⟩ := Option.bind_eq_some_iff.mp h
      obtain ⟨takes, h⟩ := Option.ite_none_right_eq_some.mp h
      obtain ⟨rfl, rfl⟩ := Prod.mk.inj (Option.some.inj h)
      obtain ⟨mem, rfl⟩ := Prefix.ofChar?_eq_some_iff.mp prefixed
      exact ⟨d :: rest, shape, List.cons_ne_nil d rest, mem, found, takes⟩
    case h_2 => contradiction
  · rintro ⟨rest, shape, nonempty, mem, found, takes⟩
    obtain ⟨d, rest, rfl⟩ := List.exists_cons_of_ne_nil nonempty
    have prefixed := Prefix.ofChar?_eq_some_iff.mpr ⟨mem, rfl⟩
    simp only [shape, prefixed, found, takes, Option.bind_eq_bind, Option.bind_some, if_true]

theorem resolve_of_find? {entry : Entry} (found : registry.find? symbol = some entry) :
    registry.resolve symbol = some entry.measure := by
  rw [resolve, found]

theorem resolve_of_find?_eq_none (missing : registry.find? symbol = none) :
    registry.resolve symbol = some m ↔
      ∃ head entry, registry.split? symbol = some (head, entry) ∧
        m = ⟨entry.dimension, head.multiplier * entry.scale⟩ := by
  rw [resolve, missing]
  simp only [Option.map_eq_some_iff, Prod.exists]
  exact exists₂_congr fun _ _ => and_congr_right' eq_comm

/-- A symbol of letters alone is read as what it resolves to. -/
theorem parse_symbol (nonempty : symbol.toList ≠ [])
    (letters : ∀ c ∈ symbol.toList, Text.isAlphabetic c = true)
    (known : registry.resolve symbol = some m) : registry.parse symbol = .ok m := by
  let name : Grammar.Name := ⟨⟨symbol.toList, letters⟩, nonempty⟩
  let factor : Grammar.Factor := .symbol Grammar.noBlanks name (.spaced .absent)
  let tree : Grammar.Expression := .group (.factor factor)
  have denotes : factor.Denotes registry maxDepth m := by
    have found : registry.resolve (String.ofList name.text) = some m := by
      rwa [String.ofList_toList]
    exact Grammar.Factor.denotes_symbol.mpr ⟨trivial, m, found, rfl⟩
  have text : symbol.toList = tree.text ++ Grammar.noBlanks.text := by
    simp [tree, factor, name, Grammar.Expression.text, Grammar.Group.text, Grammar.Factor.text,
      Grammar.SymbolPower.text, Grammar.Power.text]
  have whole : tree.Denotes registry maxDepth m :=
    Grammar.Expression.denotes_group.mpr (Grammar.Group.denotes_factor.mpr denotes)
  rw [parse_eq_ok_iff_read, text]
  exact read_append whole _

end Resolution

end Registry

end Dimensional.Units
