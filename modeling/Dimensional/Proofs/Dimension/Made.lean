import Dimensional.Proofs.Dimension.Exact
import Dimensional.Proofs.Units.Range

/-!
Which dimensions can be made at all.  Everything that is checked stays in range, and so does
whatever is made from it.  Integer exponents are not checked: the least integer of 32 bits lies one
step outside the range, and a dimension with it is refused by every operation except the reciprocal.
-/

open Dimensional.Units

namespace Dimensional.Dimension

/-- What constructors and operations make, in any order and any number of steps. -/
inductive Made : Dimension → Prop where
  | unitless : Made unitless
  | angle : Made angle
  | base (q : Base) : Made (base q)
  | ofInts {exponents : Vector Int 8} (short : ∀ n ∈ exponents, Number.isShortInt n = true) :
      Made (ofInts exponents)
  | ofRats {exponents : Vector Rat 8} {d : Dimension} (h : ofRats? exponents = some d) : Made d
  | parsed {unit : String} {m : Measure} (h : Registry.standard.parse unit = .ok m) :
      Made m.dimension
  | product {a b c : Dimension} (left : Made a) (right : Made b) (h : a.mul? b = some c) : Made c
  | quotient {a b c : Dimension} (left : Made a) (right : Made b) (h : a.div? b = some c) : Made c
  | scaled {d e : Dimension} {factor : Rat} (made : Made d) (h : d.scale? factor = some e) : Made e
  | power {d e : Dimension} {n : Int} (made : Made d) (h : d.power? n = some e) : Made e
  | recip {d : Dimension} (made : Made d) : Made d.recip

/-- Exponents of 32 bits with the least of all among them, or the reciprocal of that. -/
def Overruns (d : Dimension) : Prop :=
  ∃ exponents : Vector Int 8, (∀ n ∈ exponents, Number.isShortInt n = true) ∧
    -2147483648 ∈ exponents ∧ (d = ofInts exponents ∨ d = (ofInts exponents).recip)

theorem recip_recip (d : Dimension) : d.recip.recip = d := by
  apply ext_exponent
  intro q
  rw [exponent_recip, exponent_recip, neg_neg]

theorem inRange_recip {d : Dimension} : d.recip.InRange ↔ d.InRange := by
  simp only [inRange_iff, exponent_recip, exponentInRange_neg]

theorem exponentInRange_intCast {n : Int} (short : Number.isShortInt n = true) :
    ExponentInRange n ↔ n ≠ -2147483648 := by
  simp only [Number.isShortInt, Bool.and_eq_true, decide_eq_true_eq] at short
  simp only [ExponentInRange, maxPart, Rat.num_intCast, Rat.den_intCast]
  omega

theorem inRange_ofInts {exponents : Vector Int 8}
    (short : ∀ n ∈ exponents, Number.isShortInt n = true) :
    (ofInts exponents).InRange ↔ -2147483648 ∉ exponents := by
  simp only [inRange_iff, exponent_ofInts]
  constructor
  · intro range least
    obtain ⟨i, hi, found⟩ := Vector.getElem_of_mem least
    obtain ⟨q, hq⟩ := Base.exists_index ⟨i, hi⟩
    have slot : exponents[q.index] = -2147483648 := by simpa [hq] using found
    have inside := range q
    rw [slot] at inside
    exact absurd inside (by decide)
  · intro absent q
    have mem : exponents[q.index] ∈ exponents := Vector.getElem_mem q.index.isLt
    rw [exponentInRange_intCast (short _ mem)]
    rintro same
    rw [same] at mem
    exact absent mem

theorem Overruns.not_inRange {d : Dimension} (beyond : Overruns d) : ¬ d.InRange := by
  obtain ⟨exponents, short, least, rfl | rfl⟩ := beyond
  · rw [inRange_ofInts short]
    exact not_not_intro least
  · rw [inRange_recip, inRange_ofInts short]
    exact not_not_intro least

theorem Overruns.recip {d : Dimension} (beyond : Overruns d) : Overruns d.recip := by
  obtain ⟨exponents, short, least, rfl | rfl⟩ := beyond
  · exact ⟨exponents, short, least, .inr rfl⟩
  · exact ⟨exponents, short, least, .inl (recip_recip _)⟩

theorem Overruns.made {d : Dimension} (beyond : Overruns d) : Made d := by
  obtain ⟨exponents, short, -, rfl | rfl⟩ := beyond
  · exact .ofInts short
  · exact .recip (.ofInts short)

theorem InRange.made {d : Dimension} (range : d.InRange) : Made d :=
  .ofRats (checked_eq_some_iff.mpr ⟨range, rfl⟩)

theorem Made.inRange_or_overruns {d : Dimension} (made : Made d) : d.InRange ∨ Overruns d := by
  -- Only integer exponents and reciprocals come about without a check of the range.
  induction made with
  | unitless => exact .inl (by decide)
  | angle => exact .inl (by decide)
  | base q => exact .inl (by cases q <;> decide)
  | @ofInts exponents short =>
      by_cases least : -2147483648 ∈ exponents
      · exact .inr ⟨exponents, short, least, .inl rfl⟩
      · exact .inl ((inRange_ofInts short).mpr least)
  | ofRats h => exact .inl (inRange_of_checked h)
  | parsed h => exact .inl (Registry.inRange_standard.of_parse h)
  | product left right h => exact .inl (inRange_of_mul? h)
  | quotient left right h => exact .inl (inRange_of_div? h)
  | scaled made h => exact .inl (inRange_of_scale? h)
  | power made h => exact .inl (inRange_of_scale? h)
  | recip made ih =>
      cases ih with
      | inl range => exact .inl (inRange_recip.mpr range)
      | inr beyond => exact .inr beyond.recip

theorem eq_checked_of_eq_some_iff {result : Option Dimension} {d : Dimension}
    (h : ∀ e, result = some e ↔ d.InRange ∧ d = e) : result = d.checked := by
  apply Option.ext
  intro e
  rw [h, checked_eq_some_iff]

theorem power?_one (d : Dimension) : d.power? 1 = d.checked := by
  apply eq_checked_of_eq_some_iff
  intro e
  simp only [power?, scale?_eq_some_iff_exact, Int.cast_one, mul_one]
  constructor
  · rintro ⟨range, same⟩
    obtain rfl : e = d := ext_exponent same
    exact ⟨range, rfl⟩
  · rintro ⟨range, rfl⟩
    exact ⟨range, fun _ => rfl⟩

theorem mul?_unitless (d : Dimension) : d.mul? unitless = d.checked := by
  apply eq_checked_of_eq_some_iff
  intro e
  constructor
  · intro h
    obtain rfl : e = d := by
      apply ext_exponent
      intro q
      have sum := Number.Fraction.eq_add_of_add? (mul?_eq_some_iff.mp h q).1
      rw [sum, exponent_unitless, add_zero]
    exact ⟨inRange_of_mul? h, rfl⟩
  · rintro ⟨range, rfl⟩
    rw [mul?_eq_some_iff_of_inRange range (by decide)]
    refine ⟨range, ?_⟩
    intro q
    rw [exponent_unitless, add_zero]

/-- The dimensions that can be made are those in range and those that overrun; to the first the
power of one and the product with the unitless dimension give themselves, to the others nothing. -/
theorem made_iff_inRange_or_overruns (d : Dimension) :
    (Made d ↔ d.InRange ∨ Overruns d) ∧ ¬ (d.InRange ∧ Overruns d) ∧
      (d.power? 1 = if d.InRange then some d else none) ∧
      (d.mul? unitless = if d.InRange then some d else none) := by
  refine ⟨⟨Made.inRange_or_overruns, ?_⟩, ?_, power?_one d, mul?_unitless d⟩
  · rintro (range | beyond)
    · exact range.made
    · exact beyond.made
  · rintro ⟨range, beyond⟩
    exact beyond.not_inRange range

theorem made_out_of_range :
    Made (ofInts #v[-2147483648, 0, 0, 0, 0, 0, 0, 0]) ∧
      ¬ (ofInts #v[-2147483648, 0, 0, 0, 0, 0, 0, 0]).InRange ∧
      (ofInts #v[-2147483648, 0, 0, 0, 0, 0, 0, 0]).power? 1 = none ∧
      (ofInts #v[-2147483648, 0, 0, 0, 0, 0, 0, 0]).mul? unitless = none := by
  have short : ∀ n ∈ #v[-2147483648, 0, 0, 0, 0, 0, 0, 0], Number.isShortInt n = true := by
    decide
  have beyond : Overruns (ofInts #v[-2147483648, 0, 0, 0, 0, 0, 0, 0]) :=
    ⟨_, short, by simp, .inl rfl⟩
  have outside := checked_eq_none_iff.mpr beyond.not_inRange
  exact ⟨.ofInts short, beyond.not_inRange, (power?_one _).trans outside,
    (mul?_unitless _).trans outside⟩

end Dimensional.Dimension
