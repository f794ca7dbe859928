import Mathlib.Algebra.Order.Ring.Unbundled.Rat
import Mathlib.Data.List.Nodup
import Dimensional.Dimension.Canonical
import Dimensional.Proofs.Dimension.Exact

/-!
A dimension taken apart as its canonical text takes it apart: the bases above the line and those
below, and how the powers of single bases multiply to the whole.
-/

namespace Dimensional

namespace Dimension

/-- The exponents of the dimension at some bases, and zero at the others. -/
def restrict (d : Dimension) (qs : List Base) : Dimension :=
  ofExponents fun q => if q ∈ qs then d.exponent q else 0

/-- One base to a power. -/
def basePower (q : Base) (e : Rat) : Dimension :=
  ofExponents fun p => if p = q then e else 0

theorem inRange_restrict {d : Dimension} (range : d.InRange) (qs : List Base) :
    (d.restrict qs).InRange := by
  rw [inRange_iff]
  intro q
  rw [restrict, exponent_ofExponents]
  split
  · exact inRange_iff.mp range q
  · exact exponentInRange_zero

theorem inRange_basePower {e : Rat} (range : ExponentInRange e) (q : Base) :
    (basePower q e).InRange := by
  rw [inRange_iff]
  intro p
  rw [basePower, exponent_ofExponents]
  split
  · exact range
  · exact exponentInRange_zero

theorem basePower_one (q : Base) : basePower q 1 = base q := by
  apply ext_exponent
  intro p
  rw [basePower, exponent_ofExponents, exponent_base]
  simp only [eq_comm]

theorem scale?_base {e : Rat} (range : ExponentInRange e) (q : Base) :
    (base q).scale? e = some (basePower q e) := by
  rw [scale?_eq_some_iff_exact]
  refine ⟨inRange_basePower range q, ?_⟩
  intro p
  rw [basePower, exponent_ofExponents, exponent_base]
  by_cases same : p = q
  · simp [same]
  · simp [same, Ne.symm same]

variable {d : Dimension} {qs : List Base} {q : Base}

theorem exponent_restrict_append (fresh : q ∉ qs) (p : Base) :
    (d.restrict (qs ++ [q])).exponent p =
      (d.restrict qs).exponent p + (basePower q (d.exponent q)).exponent p := by
  simp only [restrict, basePower, exponent_ofExponents, List.mem_append, List.mem_singleton]
  by_cases same : p = q
  · subst same
    simp [fresh]
  · simp [same]

theorem exponent_basePower_neg (q p : Base) (e : Rat) :
    (basePower q (-e)).exponent p = -(basePower q e).exponent p := by
  simp only [basePower, exponent_ofExponents]
  split
  · rfl
  · exact neg_zero.symm

theorem restrict_mul? (range : d.InRange) (fresh : q ∉ qs) :
    (d.restrict qs).mul? (basePower q (d.exponent q)) = some (d.restrict (qs ++ [q])) := by
  have factor := inRange_basePower (inRange_iff.mp range q) q
  rw [mul?_eq_some_iff_of_inRange (inRange_restrict range qs) factor]
  exact ⟨inRange_restrict range _, exponent_restrict_append fresh⟩

theorem restrict_div? (range : d.InRange) (fresh : q ∉ qs) :
    (d.restrict qs).div? (basePower q (-d.exponent q)) = some (d.restrict (qs ++ [q])) := by
  have factor := inRange_basePower (exponentInRange_neg.mpr (inRange_iff.mp range q)) q
  rw [div?_eq_some_iff_of_inRange (inRange_restrict range qs) factor]
  refine ⟨inRange_restrict range _, ?_⟩
  intro p
  rw [exponent_restrict_append fresh, exponent_basePower_neg, sub_neg_eq_add]

theorem restrict_nil : d.restrict [] = unitless := by
  apply ext_exponent
  intro q
  simp [restrict]

theorem restrict_singleton (d : Dimension) (q : Base) :
    d.restrict [q] = basePower q (d.exponent q) := by
  apply ext_exponent
  intro p
  rw [restrict, basePower, exponent_ofExponents, exponent_ofExponents]
  by_cases same : p = q
  · simp [same]
  · simp [same]

/-! The bases above and below the line of a dimension. -/

def positives (d : Dimension) : List Base :=
  Base.all.filter (0 < d.exponent ·)

def negatives (d : Dimension) : List Base :=
  Base.all.filter (d.exponent · < 0)

theorem nodup_positives_negatives (d : Dimension) : (d.positives ++ d.negatives).Nodup := by
  have all : Base.all.Nodup := by decide
  refine List.nodup_append'.mpr ⟨all.filter _, all.filter _, ?_⟩
  intro q above below
  have gt : 0 < d.exponent q := by simpa [positives] using above
  have lt : d.exponent q < 0 := by simpa [negatives] using below
  exact absurd gt (not_lt.mpr lt.le)

theorem restrict_positives_negatives (d : Dimension) :
    d.restrict (d.positives ++ d.negatives) = d := by
  apply ext_exponent
  intro q
  rw [restrict, exponent_ofExponents]
  split
  case isTrue => rfl
  case isFalse absent =>
    simp only [positives, negatives, List.mem_append, List.mem_filter, Base.mem_all, true_and,
      decide_eq_true_eq, not_or, not_lt] at absent
    exact le_antisymm absent.2 absent.1

theorem filterMap_ite_eq_map_filter {α β : Type} (P : α → Prop) [DecidablePred P] (f : α → β)
    (xs : List α) :
    (xs.filterMap fun x => if P x then some (f x) else none) = (xs.filter (P ·)).map f := by
  induction xs with
  | nil => rfl
  | cons x xs ih =>
      by_cases h : P x
      · simp [h, ih]
      · simp [h, ih]

theorem numerators_eq (d : Dimension) :
    d.numerators = d.positives.map fun q => term q.symbol.toList (d.exponent q) := by
  rw [numerators, factors, List.filterMap_map]
  exact filterMap_ite_eq_map_filter (fun q => 0 < d.exponent q) _ Base.all

theorem denominators_eq (d : Dimension) :
    d.denominators = d.negatives.map fun q => term q.symbol.toList (-d.exponent q) := by
  rw [denominators, factors, List.filterMap_map]
  exact filterMap_ite_eq_map_filter (fun q => d.exponent q < 0) _ Base.all

end Dimension

end Dimensional
