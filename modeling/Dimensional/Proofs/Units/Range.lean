import Dimensional.Proofs.Units.Reading
import Dimensional.Units.Standard

/-!
Where all named units are in range, so is everything that an expression can denote: products,
quotients and powers are checked, and the rest of the grammar passes measures on unchanged.
-/

namespace Dimensional.Units

namespace Measure

variable {a b m : Measure}

theorem inRange_one : one.dimension.InRange := by
  decide

theorem inRange_of_mul? (h : a.mul? b = some m) : m.dimension.InRange := by
  obtain ⟨d, product, rfl⟩ := Option.map_eq_some_iff.mp h
  exact Dimension.inRange_of_mul? product

theorem inRange_of_div? (h : a.div? b = some m) : m.dimension.InRange := by
  obtain ⟨d, quotient, rfl⟩ := Option.map_eq_some_iff.mp h
  exact Dimension.inRange_of_div? quotient

theorem inRange_of_power? {e : Rat} (h : a.power? e = some m) : m.dimension.InRange := by
  obtain ⟨d, power, rfl⟩ := Option.map_eq_some_iff.mp h
  exact Dimension.inRange_of_scale? power

end Measure

namespace Registry

variable {registry : Registry}

def InRange (registry : Registry) : Prop :=
  ∀ entry ∈ registry.entries, entry.dimension.InRange

instance (registry : Registry) : Decidable registry.InRange :=
  inferInstanceAs (Decidable (∀ entry ∈ registry.entries, entry.dimension.InRange))

theorem inRange_standard : standard.InRange := by
  decide +kernel

theorem InRange.of_find? (range : registry.InRange) {symbol : String} {entry : Entry}
    (h : registry.find? symbol = some entry) : entry.dimension.InRange :=
  range entry (List.mem_of_find?_eq_some h)

theorem InRange.of_split? (range : registry.InRange) {symbol : String} {head : Prefix}
    {entry : Entry} (h : registry.split? symbol = some (head, entry)) :
    entry.dimension.InRange := by
  unfold split? at h
  split at h
  case h_1 =>
    obtain ⟨_, -, h⟩ := Option.bind_eq_some_iff.mp h
    obtain ⟨found, known, h⟩ := Option.bind_eq_some_iff.mp h
    split at h
    case isTrue =>
      cases h
      exact range.of_find? known
    case isFalse => cases h
  case h_2 => cases h

theorem InRange.of_resolve (range : registry.InRange) {symbol : String} {m : Measure}
    (h : registry.resolve symbol = some m) : m.dimension.InRange := by
  unfold resolve at h
  split at h
  case h_1 entry known =>
    cases h
    exact range.of_find? known
  case h_2 =>
    obtain ⟨⟨head, entry⟩, known, rfl⟩ := Option.map_eq_some_iff.mp h
    exact range.of_split? known

end Registry

namespace Grammar

variable {registry : Registry} {m : Measure}

theorem Power.inRange_of_applied? {power : Power} {a : Measure} (range : a.dimension.InRange)
    (h : power.applied? a = some m) : m.dimension.InRange := by
  cases power with
  | absent =>
      cases h
      exact range
  | raised gap e => exact Measure.inRange_of_power? h

theorem SymbolPower.inRange_of_applied? {power : SymbolPower} {a : Measure}
    (range : a.dimension.InRange) (h : power.applied? a = some m) : m.dimension.InRange := by
  cases power with
  | glued digits => exact Measure.inRange_of_power? h
  | spaced power => exact power.inRange_of_applied? range h

/-! Along the tree: operators and powers are checked, the other nodes hand a measure on. -/

mutual
theorem Expression.inRange_of_value? (range : registry.InRange) :
    (tree : Expression) → {m : Measure} → tree.value? registry = some m → m.dimension.InRange
  | .group only, _, h => only.inRange_of_value? range h
  | .times left gap right, _, h => by
      obtain ⟨a, -, h⟩ := Option.bind_eq_some_iff.mp h
      obtain ⟨b, -, product⟩ := Option.bind_eq_some_iff.mp h
      exact Measure.inRange_of_mul? product
  | .over left gap right, _, h => by
      obtain ⟨a, -, h⟩ := Option.bind_eq_some_iff.mp h
      obtain ⟨b, -, quotient⟩ := Option.bind_eq_some_iff.mp h
      exact Measure.inRange_of_div? quotient

theorem Group.inRange_of_value? (range : registry.InRange) :
    (tree : Group) → {m : Measure} → tree.value? registry = some m → m.dimension.InRange
  | .factor only, _, h => only.inRange_of_value? range h
  | .hyphen left gap right, _, h => by
      obtain ⟨a, -, h⟩ := Option.bind_eq_some_iff.mp h
      obtain ⟨b, -, product⟩ := Option.bind_eq_some_iff.mp h
      exact Measure.inRange_of_mul? product

theorem Factor.inRange_of_value? (range : registry.InRange) :
    (tree : Factor) → {m : Measure} → tree.value? registry = some m → m.dimension.InRange
  | .one gap power, _, h => power.inRange_of_applied? Measure.inRange_one h
  | .symbol gap name power, _, h => by
      obtain ⟨a, known, h⟩ := Option.bind_eq_some_iff.mp h
      exact power.inRange_of_applied? (range.of_resolve known) h
  | .parenthesised gap inside last power, _, h => by
      obtain ⟨a, value, h⟩ := Option.bind_eq_some_iff.mp h
      exact power.inRange_of_applied? (inside.inRange_of_value? range value) h
end

end Grammar

theorem Registry.InRange.of_parse {registry : Registry} (range : registry.InRange)
    {unit : String} {m : Measure} (h : registry.parse unit = .ok m) : m.dimension.InRange := by
  obtain ⟨-, rfl⟩ | ⟨tree, last, -, denotes⟩ := tree_of_read (parse_eq_ok_iff_read.mp h)
  · exact Measure.inRange_one
  · exact tree.inRange_of_value? range denotes.2.2

end Dimensional.Units
