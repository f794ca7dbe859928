import Dimensional.Proofs.Number.Fraction
import Dimensional.Quantity.Power

/-!
The operations on dimensions compute with exact rational exponents: there is a result exactly when
every exact exponent is in range, and its exponents are then those.  Products, quotients and integer
powers of quantities are refused for nothing else.
-/

namespace Dimensional

namespace Dimension

theorem exponentInRange_zero : ExponentInRange 0 := by
  decide

theorem exponentInRange_neg {e : Rat} : ExponentInRange (-e) ↔ ExponentInRange e := by
  simp [ExponentInRange]

/-- There is a result exactly when these exponents are all in range, and then it has them. -/
structure IsExact (result : Option Dimension) (exponents : Base → Rat) : Prop where
  isSome_iff : result.isSome = true ↔ ∀ q, ExponentInRange (exponents q)
  exponent_eq : ∀ d, result = some d → ∀ q, d.exponent q = exponents q

def ofExponents (exponents : Base → Rat) : Dimension :=
  ⟨#v[exponents .length, exponents .mass, exponents .time, exponents .temperature,
    exponents .current, exponents .substance, exponents .luminousIntensity, exponents .angle]⟩

@[simp] theorem exponent_ofExponents (exponents : Base → Rat) (q : Base) :
    (ofExponents exponents).exponent q = exponents q := by
  cases q <;> rfl

theorem isExact_of_eq_some_iff {result : Option Dimension} {exponents : Base → Rat}
    (h : ∀ d, result = some d ↔ d.InRange ∧ ∀ q, d.exponent q = exponents q) :
    IsExact result exponents := by
  constructor
  case isSome_iff =>
    rw [Option.isSome_iff_exists]
    constructor
    · rintro ⟨d, hd⟩ q
      obtain ⟨range, same⟩ := (h d).mp hd
      rw [← same q]
      exact inRange_iff.mp range q
    · intro range
      refine ⟨ofExponents exponents, (h _).mpr ⟨inRange_iff.mpr fun q => ?_, fun q => ?_⟩⟩
      · rw [exponent_ofExponents]
        exact range q
      · exact exponent_ofExponents exponents q
  case exponent_eq =>
    intro d hd
    exact ((h d).mp hd).2

theorem mul?_eq_some_iff_of_inRange {a b c : Dimension} (ha : a.InRange) (hb : b.InRange) :
    a.mul? b = some c ↔ c.InRange ∧ ∀ q, c.exponent q = a.exponent q + b.exponent q := by
  rw [mul?_eq_some_iff, inRange_iff, ← forall_and]
  apply forall_congr'
  intro q
  rw [Number.Fraction.add?_of_inRange (inRange_iff.mp ha q) (inRange_iff.mp hb q),
    Option.some_inj, and_comm, eq_comm]

theorem div?_eq_some_iff_of_inRange {a b c : Dimension} (ha : a.InRange) (hb : b.InRange) :
    a.div? b = some c ↔ c.InRange ∧ ∀ q, c.exponent q = a.exponent q - b.exponent q := by
  rw [div?_eq_some_iff, inRange_iff, ← forall_and]
  apply forall_congr'
  intro q
  rw [Number.Fraction.sub?_of_inRange (inRange_iff.mp ha q) (inRange_iff.mp hb q),
    Option.some_inj, and_comm, eq_comm]

/-- Scaling is exact whatever the factor, and also where the dimension itself is out of range. -/
theorem scale?_eq_some_iff_exact {d e : Dimension} {factor : Rat} :
    d.scale? factor = some e ↔ e.InRange ∧ ∀ q, e.exponent q = d.exponent q * factor := by
  rw [scale?_eq_some_iff, inRange_iff, ← forall_and]
  apply forall_congr'
  intro q
  constructor
  · rintro ⟨product, range⟩
    exact ⟨range, ((Number.Fraction.mul?_eq_some_iff_of_inRange range).mp product).symm⟩
  · rintro ⟨range, product⟩
    exact ⟨(Number.Fraction.mul?_eq_some_iff_of_inRange range).mpr product.symm, range⟩

theorem isExact_mul? {a b : Dimension} (ha : a.InRange) (hb : b.InRange) :
    IsExact (a.mul? b) fun q => a.exponent q + b.exponent q :=
  isExact_of_eq_some_iff fun _ => mul?_eq_some_iff_of_inRange ha hb

theorem isExact_div? {a b : Dimension} (ha : a.InRange) (hb : b.InRange) :
    IsExact (a.div? b) fun q => a.exponent q - b.exponent q :=
  isExact_of_eq_some_iff fun _ => div?_eq_some_iff_of_inRange ha hb

theorem isExact_scale? (d : Dimension) (factor : Rat) :
    IsExact (d.scale? factor) fun q => d.exponent q * factor :=
  isExact_of_eq_some_iff fun _ => scale?_eq_some_iff_exact

theorem isExact_power? (d : Dimension) (n : Int) :
    IsExact (d.power? n) fun q => d.exponent q * n :=
  isExact_scale? d n

end Dimension

namespace Quantity

open Dimension

/-- Refused, with this failure, exactly when one of the exponents is out of range. -/
structure IsExact (outcome : Except Failure Quantity) (refusal : Failure)
    (exponents : Base → Rat) : Prop where
  error_iff : ∀ f, outcome = .error f ↔ f = refusal ∧ ∃ q, ¬ ExponentInRange (exponents q)
  exponent_eq : ∀ z, outcome = .ok z → ∀ q, z.dimension.exponent q = exponents q

theorem isExact_inRange {op : Operation} {operand : Dimension} {value : Float}
    {result : Option Dimension} {exponents : Base → Rat}
    (h : Dimension.IsExact result exponents) :
    IsExact (inRange op operand value result) (.exponentOverflow op operand) exponents := by
  cases result with
  | none =>
      have outside : ∃ q, ¬ ExponentInRange (exponents q) := by
        by_contra none
        simpa using h.isSome_iff.mpr (by simpa using none)
      constructor
      case error_iff => simp [inRange, outside, eq_comm]
      case exponent_eq => simp [inRange]
  | some d =>
      have range := h.isSome_iff.mp rfl
      constructor
      case error_iff => simp [inRange, range]
      case exponent_eq =>
        rintro z hz
        cases hz
        exact h.exponent_eq d rfl

theorem isExact_intPower (x : Quantity) (n : Int) :
    IsExact (x.intPower n) (.exponentOverflow .powi x.dimension)
      fun q => x.dimension.exponent q * n :=
  isExact_inRange (isExact_power? x.dimension n)

theorem intPower_of_isUnitless {d : Dimension} (h : d.isUnitless = true) (value : Float)
    (n : Int) : ∃ z, intPower ⟨value, d⟩ n = .ok z := by
  cases outcome : intPower ⟨value, d⟩ n with
  | ok z => exact ⟨z, rfl⟩
  | error f =>
      -- A refusal names an exponent out of range, but all of them are zero times `n`.
      obtain ⟨-, q, outside⟩ := ((isExact_intPower ⟨value, d⟩ n).error_iff f).mp outcome
      rw [isUnitless_iff.mp h, exponent_unitless, zero_mul] at outside
      exact absurd (by decide) outside

theorem arithmetic_isExact {a b : Dimension} (ha : a.InRange) (hb : b.InRange) :
    (Dimension.IsExact (a.mul? b) fun q => a.exponent q + b.exponent q) ∧
    (Dimension.IsExact (a.div? b) fun q => a.exponent q - b.exponent q) ∧
    (∀ factor : Rat, Dimension.IsExact (a.scale? factor) fun q => a.exponent q * factor) ∧
    (∀ n : Int, Dimension.IsExact (a.power? n) fun q => a.exponent q * n) ∧
    ∀ u v : Float,
      (IsExact (mul ⟨u, a⟩ ⟨v, b⟩) (.exponentOverflow .mul a)
        fun q => a.exponent q + b.exponent q) ∧
      (IsExact (div ⟨u, a⟩ ⟨v, b⟩) (.exponentOverflow .div a)
        fun q => a.exponent q - b.exponent q) ∧
      ∀ n : Int,
        (IsExact (intPower ⟨u, a⟩ n) (.exponentOverflow .powi a) fun q => a.exponent q * n) ∧
        (a.isUnitless = true → ∃ z, intPower ⟨u, a⟩ n = .ok z) := by
  refine ⟨isExact_mul? ha hb, isExact_div? ha hb, isExact_scale? a, isExact_power? a, ?_⟩
  intro u v
  refine ⟨isExact_inRange (isExact_mul? ha hb), isExact_inRange (isExact_div? ha hb), ?_⟩
  intro n
  exact ⟨isExact_intPower ⟨u, a⟩ n, fun h => intPower_of_isUnitless h u n⟩

/-- At the largest exponent the range ends: one more length leaves it. -/
theorem arithmetic_isExact_maxPart :
    (ofInts #v[2147483647, 0, 0, 0, 0, 0, 0, 0]).InRange ∧ (base .length).InRange ∧
      ((ofInts #v[2147483647, 0, 0, 0, 0, 0, 0, 0]).mul? (base .length)).isSome = false := by
  have range : (ofInts #v[2147483647, 0, 0, 0, 0, 0, 0, 0]).InRange := by decide +kernel
  have unit : (base .length).InRange := by decide +kernel
  have exact := (arithmetic_isExact range unit).1
  refine ⟨range, unit, ?_⟩
  rw [Bool.eq_false_iff, ne_eq, exact.isSome_iff]
  intro h
  exact absurd (h .length) (by decide +kernel)

end Quantity

end Dimensional
