import Mathlib.Algebra.Order.Ring.Unbundled.Rat
import Mathlib.Data.Rat.Lemmas
import Dimensional.Dimension
import Dimensional.Number.Power

/-!
What floats stand for as exponents.  An integer stands for itself up to the largest part of an
exponent and for nothing beyond, and the reciprocal of a denominator that is small enough stands for
the fraction although the float misses it.
-/

namespace Dimensional.Number

open Dimension

theorem abs_intCast (n : Int) : (n : Rat).abs = (n.natAbs : Rat) := by
  obtain ⟨m, rfl | rfl⟩ := n.eq_nat_or_neg
  · rw [Rat.abs_of_nonneg (by exact_mod_cast Int.natCast_nonneg m)]
    rfl
  · rw [Int.cast_neg, Rat.abs_neg, Int.natAbs_neg, Rat.abs_of_nonneg
      (by exact_mod_cast Int.natCast_nonneg m)]
    rfl

theorem roundHalfAway_intCast (n : Int) : roundHalfAway n = n := by
  have half : ((1 : Rat) / 2).floor = 0 := by decide +kernel
  have up (n : Int) : ((n : Rat) + 1 / 2).floor = n := by
    rw [Rat.add_comm, Rat.floor_add_intCast, half, Int.zero_add]
  rw [roundHalfAway]
  split
  · exact up n
  · rw [← Int.cast_neg, up, Int.neg_neg]

variable {x : Float} {n : Int}

theorem maxFraction_lt_abs_iff (n : Int) : maxFraction < (n : Rat).abs ↔ maxPart < n.natAbs := by
  rw [abs_intCast, maxFraction, maxPart]
  exact_mod_cast Iff.rfl

theorem withDenominator?_one (whole : toRat? x = some (n : Rat)) :
    withDenominator? x 1 = some (n : Rat) := by
  have distance : ((n : Rat) - (n : Rat)).abs ≤ fractionTolerance := by
    rw [Rat.sub_self]
    decide +kernel
  rw [withDenominator?, scaleUp, if_pos rfl, whole]
  simp only [roundHalfAway_intCast, if_pos distance, Rat.mkRat_one]

theorem smallFraction?_of_integer (whole : toRat? x = some (n : Rat)) (small : n.natAbs ≤ maxPart) :
    smallFraction? x = some (n : Rat) := by
  have inside : ¬ maxFraction < (n : Rat).abs :=
    fun beyond => absurd ((maxFraction_lt_abs_iff n).mp beyond) (Nat.not_lt.mpr small)
  have denominators : (List.range maxDenominator).map (· + 1) =
      1 :: (List.range 15).map (· + 2) := by decide
  rw [smallFraction?, whole]
  simp only [if_neg inside, denominators, List.findSome?_cons, withDenominator?_one whole]

theorem smallFraction?_of_beyond (whole : toRat? x = some (n : Rat)) (beyond : maxPart < n.natAbs) :
    smallFraction? x = none := by
  rw [smallFraction?, whole]
  exact if_pos ((maxFraction_lt_abs_iff n).mpr beyond)

theorem smallFraction?_half : smallFraction? 0.5 = some (1 / 2) := by
  decide +kernel

/-- The float nearest to a reciprocal stands for it, exact or not. -/
theorem smallFraction?_reciprocal {k : Nat} (low : 2 ≤ k) (high : k ≤ maxDenominator) :
    smallFraction? (1.0 / Float.ofNat k) = some (1 / (k : Rat)) := by
  have all : ∀ k ∈ List.range (maxDenominator + 1), 2 ≤ k →
      smallFraction? (1.0 / Float.ofNat k) = some (mkRat 1 k) := by decide +kernel
  rw [all k (List.mem_range.mpr (Nat.lt_succ_of_le high)) low, Rat.mkRat_eq_div]
  rfl

end Dimensional.Number
