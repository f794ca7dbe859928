import Mathlib.Tactic.Ring
import Dimensional.Proofs.Dynamic.Arithmetic
import Dimensional.Proofs.Number.LargeInteger
import Dimensional.Proofs.Quantity.Power

/-!
Powers by integers of any size.  There is a result exactly where every scaled exponent is in range,
and its exponents are the scaled ones.  How a power without a result is refused depends on the
integer: as an overflow up to 64 bits, as a real power that leaves fractions as far as the floats
reach, and as no real number at all beyond them.
-/

namespace Dimensional.Dynamic

open Dimension (ExponentInRange base basePower inRange_basePower maxPart)
open Number (isLongInt)
open Operand (intToFloat)

variable {v : Quantity} {n : Int}

section Exponents

/-- An exponent other than zero is scaled into the range by factors of limited size only. -/
theorem natAbs_le_of_exponentInRange {e : Rat} (range : ExponentInRange e) (nonzero : e ≠ 0)
    (scaled : ExponentInRange (e * n)) : n.natAbs ≤ maxPart * maxPart := by
  have cross : (e * n).num * e.den = e.num * n * (e * n).den := by
    have product : ((e * n).num : Rat) * e.den = e.num * n * (e * n).den := by
      rw [← Rat.mul_den_eq_num (e * n), ← Rat.mul_den_eq_num e]
      ring
    exact_mod_cast product
  have sizes := congrArg Int.natAbs cross
  rw [Int.natAbs_mul, Int.natAbs_mul, Int.natAbs_mul, Int.natAbs_natCast, Int.natAbs_natCast]
    at sizes
  have numerator : 1 ≤ e.num.natAbs := Int.natAbs_pos.mpr (Rat.num_ne_zero.mpr nonzero)
  calc
    n.natAbs ≤ e.num.natAbs * n.natAbs := Nat.le_mul_of_pos_left _ numerator
    _ ≤ e.num.natAbs * n.natAbs * (e * n).den := Nat.le_mul_of_pos_right _ (Rat.den_pos _)
    _ = (e * n).num.natAbs * e.den := sizes.symm
    _ ≤ maxPart * maxPart := Nat.mul_le_mul scaled.1 range.2

theorem natAbs_of_not_isLongInt (long : isLongInt n = false) : 2 ^ 63 ≤ n.natAbs := by
  have beyond := mt Number.isLongInt_iff.mpr (Bool.eq_false_iff.mp long)
  omega

/-- No power beyond 64 bits has its exponents in range. -/
theorem exists_out_of_range (range : v.dimension.InRange) (dimensioned : v.isUnitless = false)
    (long : isLongInt n = false) : ∃ b, ¬ExponentInRange (v.dimension.exponent b * n) := by
  by_contra! inside
  have unitless : v.dimension = .unitless := by
    ext b
    rw [Dimension.exponent_unitless]
    by_contra nonzero
    have small := natAbs_le_of_exponentInRange (Dimension.inRange_iff.mp range b) nonzero (inside b)
    have large := natAbs_of_not_isLongInt long
    rw [maxPart] at small
    omega
  rw [Quantity.isUnitless, Dimension.isUnitless_iff.mpr unitless] at dimensioned
  contradiction

end Exponents

section Power

theorem power_of_isLongInt (short : isLongInt n = true) :
    power (.quantity v) (.int n) none = refusable .quantity (v.intPower n) := by
  rw [power, powerBy, Operand.toInt, Operand.longInt, if_pos short]

theorem power_of_intToFloat {x : Float} (long : isLongInt n = false)
    (near : intToFloat n = .ok x) :
    power (.quantity v) (.int n) none = refusable .quantity (v.realPower x) := by
  rw [power, powerBy, Operand.toInt, Operand.longInt, if_neg (by simp [long]),
    Operand.toFloat, near]

theorem power_of_tooLarge {problem : Problem} (long : isLongInt n = false)
    (tooLarge : intToFloat n = .error problem) :
    power (.quantity v) (.int n) none = .error .exponentNotReal := by
  rw [power, powerBy, Operand.toInt, Operand.longInt, if_neg (by simp [long]),
    Operand.toFloat, tooLarge]

theorem smallFraction?_of_intToFloat {x : Float} (long : isLongInt n = false)
    (near : intToFloat n = .ok x) : Number.smallFraction? x = none := by
  have large := natAbs_of_not_isLongInt long
  rw [intToFloat] at near
  split at near
  · contradiction
  · obtain rfl := Except.ok.inj near
    exact Number.smallFraction?_ofParts _ (by omega)

theorem power_of_not_isLongInt {x : Float} (dimensioned : v.isUnitless = false)
    (long : isLongInt n = false) (near : intToFloat n = .ok x) :
    power (.quantity v) (.int n) none =
      .error (.refused (.nonIntegralDimension .powf v.dimension x)) := by
  rw [power_of_intToFloat long near,
    Quantity.realPower_of_none dimensioned (smallFraction?_of_intToFloat long near)]
  rfl

/-- The scaled exponents are all in range. -/
def Fits (n : Int) (v : Quantity) : Prop :=
  ∀ b, ExponentInRange (v.dimension.exponent b * n)

/-- What a power by an integer comes to: the scaled exponents, or one of three exceptions. -/
inductive IsPowerBy (n : Int) (v : Quantity) : Result → Prop
  | made {z : Quantity} (fits : Fits n v)
      (scaled : ∀ b, z.dimension.exponent b = v.dimension.exponent b * n) :
      IsPowerBy n v (.ok (.quantity z))
  | overflow {problem : Problem} (outside : ¬Fits n v) (short : isLongInt n = true)
      (raised : Raises (.exponentOverflow .powi v.dimension) problem) :
      IsPowerBy n v (.error problem)
  | nonIntegral {x : Float} {problem : Problem} (outside : ¬Fits n v)
      (long : isLongInt n = false) (near : intToFloat n = .ok x)
      (raised : Raises (.nonIntegralDimension .powf v.dimension x) problem) :
      IsPowerBy n v (.error problem)
  | notReal {problem : Problem} (outside : ¬Fits n v) (long : isLongInt n = false)
      (beyond : intToFloat n = .error problem) : IsPowerBy n v (.error .exponentNotReal)

theorem isPowerBy_intPower (short : isLongInt n = true) :
    IsPowerBy n v (refusable .quantity (v.intPower n)) := by
  have exact := Quantity.isExact_intPower v n
  cases powered : v.intPower n with
  | ok z => exact .made (exact.succeeds.ok_iff.mp ⟨z, powered⟩) (exact.exponent_eq z powered)
  | error f =>
      obtain ⟨rfl, outside⟩ := (exact.error_iff f).mp powered
      exact .overflow (not_forall.mpr outside) short (raises_refused _)

theorem isPowerBy_power_of_inRange (range : v.dimension.InRange)
    (dimensioned : v.isUnitless = false) (n : Int) :
    IsPowerBy n v (power (.quantity v) (.int n) none) := by
  cases size : isLongInt n with
  | true =>
      rw [power_of_isLongInt size]
      exact isPowerBy_intPower size
  | false =>
      have outside : ¬Fits n v := not_forall.mpr (exists_out_of_range range dimensioned size)
      cases near : intToFloat n with
      | ok x =>
          rw [power_of_not_isLongInt dimensioned size near]
          exact .nonIntegral outside size near (raises_refused _)
      | error problem =>
          rw [power_of_tooLarge size near]
          exact .notReal outside size near

namespace IsPowerBy

variable {result : Result}

theorem ok_iff (h : IsPowerBy n v result) : (∃ z, result = .ok (.quantity z)) ↔ Fits n v := by
  cases h with
  | @made z fits => exact iff_of_true ⟨z, rfl⟩ fits
  | overflow outside | nonIntegral outside | notReal outside => exact iff_of_false nofun outside

theorem overflow_iff (h : IsPowerBy n v result) :
    (∃ problem, result = .error problem ∧ problem.className = "ExponentOverflowError") ↔
      ¬Fits n v ∧ isLongInt n = true := by
  have overflows : exceptionName .exponentOverflow = "ExponentOverflowError" := by decide
  have other : exceptionName .nonIntegralDimension ≠ "ExponentOverflowError" := by decide
  cases h with
  | made fits => exact iff_of_false nofun fun h => h.1 fits
  | overflow outside short raised =>
      exact iff_of_true ⟨_, rfl, raised.named.trans overflows⟩ ⟨outside, short⟩
  | nonIntegral outside long near raised =>
      refine iff_of_false ?_ fun h => by simp [long] at h
      rintro ⟨_, ⟨⟩, named⟩
      exact other (raised.named.symm.trans named)
  | notReal outside long =>
      refine iff_of_false ?_ fun h => by simp [long] at h
      rintro ⟨_, ⟨⟩, named⟩
      exact absurd named (by decide)

end IsPowerBy

/-- A power succeeds where the scaled exponents fit, whatever the size of the integer; and where
they do not, it is an overflow for integers of 64 bits only. -/
theorem isPowerBy_power (range : v.dimension.InRange) (dimensioned : v.isUnitless = false)
    (n : Int) :
    IsPowerBy n v (power (.quantity v) (.int n) none) ∧
      ((∃ z, power (.quantity v) (.int n) none = .ok (.quantity z)) ↔ Fits n v) ∧
      ((∃ problem, power (.quantity v) (.int n) none = .error problem ∧
          problem.className = "ExponentOverflowError") ↔ ¬Fits n v ∧ isLongInt n = true) :=
  have outcome := isPowerBy_power_of_inRange range dimensioned n
  ⟨outcome, outcome.ok_iff, outcome.overflow_iff⟩

/-- The widest length still has an inverse. -/
theorem isPowerBy_power_inverse :
    (basePower .length 2147483647).InRange ∧ (basePower .length 2147483647).isUnitless = false ∧
      ∃ z, power (.quantity ⟨1.0, basePower .length 2147483647⟩) (.int (-1)) none =
        .ok (.quantity z) := by
  have range : (basePower .length 2147483647).InRange := inRange_basePower (by decide +kernel) _
  have dimensioned : (basePower .length 2147483647).isUnitless = false := by decide +kernel
  have fits : Fits (-1) ⟨1.0, basePower .length 2147483647⟩ := by
    intro b
    cases b <;> decide +kernel
  have power := isPowerBy_power (v := ⟨1.0, basePower .length 2147483647⟩) range dimensioned (-1)
  exact ⟨range, dimensioned, power.2.1.mpr fits⟩

/-- The first power of a length beyond 64 bits has no exponents in range and does not overflow, and
neither does one beyond the floats. -/
theorem power_length_beyond :
    (base .length).InRange ∧ (base .length).isUnitless = false ∧
      ¬Fits (2 ^ 63) ⟨1.0, base .length⟩ ∧
      (∃ problem, power (.quantity ⟨1.0, base .length⟩) (.int (2 ^ 63)) none = .error problem ∧
        problem.className = "NonIntegralDimensionError") ∧
      ¬Fits (10 ^ 400) ⟨1.0, base .length⟩ ∧
      ∃ problem, power (.quantity ⟨1.0, base .length⟩) (.int (10 ^ 400)) none = .error problem ∧
        problem.className = "TypeError" := by
  have range : (base .length).InRange := by decide +kernel
  have dimensioned : (base .length).isUnitless = false := by decide +kernel
  have near : intToFloat (2 ^ 63) = .ok (Number.ofParts false (2 ^ 63) 0) := by
    rw [intToFloat]
    exact if_neg (by decide +kernel)
  have tooLarge : intToFloat (10 ^ 400) = .error .tooLarge := by
    rw [intToFloat]
    exact if_pos (by decide +kernel)
  have outside {n : Int} (long : isLongInt n = false) : ¬Fits n ⟨1.0, base .length⟩ :=
    not_forall.mpr (exists_out_of_range (v := ⟨1.0, base .length⟩) range dimensioned long)
  have next : isLongInt (2 ^ 63) = false := by decide
  have far : isLongInt (10 ^ 400) = false := by decide +kernel
  exact ⟨range, dimensioned, outside next,
    ⟨_, power_of_not_isLongInt (v := ⟨1.0, base .length⟩) dimensioned next near, rfl⟩,
    outside far, ⟨_, power_of_tooLarge (v := ⟨1.0, base .length⟩) far tooLarge, rfl⟩⟩

end Power

end Dimensional.Dynamic
