import Mathlib.Data.Rat.Lemmas
import Mathlib.Tactic.FieldSimp
import Dimensional.Dimension

/-!
Arithmetic of fractions in 64 bits is exact.  A product has its result exactly when its parts in
lowest terms fit.  Sums and differences of fractions in the range of exponents never leave 64 bits
on the way, whatever their denominators are.
-/

namespace Dimensional.Number

theorem isLongInt_iff {n : Int} :
    isLongInt n = true ↔ -9223372036854775808 ≤ n ∧ n ≤ 9223372036854775807 := by
  simp [isLongInt]

@[simp] theorem longInt?_eq_some_iff {n m : Int} :
    longInt? n = some m ↔ isLongInt n = true ∧ n = m := by
  simp [longInt?]

namespace Fraction

open Dimension

theorem mkRat_numeratorOver (a : Rat) {common : Nat} (positive : common ≠ 0)
    (h : a.den ∣ common) :
    mkRat (numeratorOver common a) common = a := by
  obtain ⟨k, rfl⟩ := h
  have den : (a.den : Int) ≠ 0 := by exact_mod_cast a.den_nz
  have quotient : ((a.den * k : Nat) : Int) / a.den = k := by
    rw [Nat.cast_mul, Int.mul_ediv_cancel_left _ den]
  have factor : k ≠ 0 := by
    rintro rfl
    simp at positive
  rw [numeratorOver, quotient, Nat.mul_comm a.den k, Rat.mkRat_mul_left factor]
  exact Rat.mkRat_self a

theorem div_gcd_mul (m n : Nat) : m / m.gcd n * n = m.lcm n := by
  rw [Nat.lcm_eq_mul_div, Nat.div_mul_right_comm (Nat.gcd_dvd_left m n)]

/-- The steps over the least common denominator: nothing else keeps them from a result. -/
theorem overCommon?_eq_some_iff {combine : Int → Int → Int} {a b c : Rat} :
    overCommon? combine a b = some c ↔
      isLongInt (a.den.lcm b.den : Nat) = true ∧
      isLongInt (numeratorOver (a.den.lcm b.den : Nat) a) = true ∧
      isLongInt (numeratorOver (a.den.lcm b.den : Nat) b) = true ∧
      isLongInt (combine (numeratorOver (a.den.lcm b.den : Nat) a)
        (numeratorOver (a.den.lcm b.den : Nat) b)) = true ∧
      mkRat (combine (numeratorOver (a.den.lcm b.den : Nat) a)
        (numeratorOver (a.den.lcm b.den : Nat) b)) (a.den.lcm b.den) = c := by
  simp only [overCommon?, ← Nat.cast_mul, div_gcd_mul]
  simp [Option.bind_eq_some_iff]

theorem mkRat_add_over (a b : Rat) :
    mkRat (numeratorOver (a.den.lcm b.den : Nat) a + numeratorOver (a.den.lcm b.den : Nat) b)
      (a.den.lcm b.den) = a + b := by
  have positive : a.den.lcm b.den ≠ 0 := Nat.lcm_ne_zero a.den_nz b.den_nz
  rw [← Rat.mkRat_add_mkRat_of_den _ _ positive,
    mkRat_numeratorOver a positive (Nat.dvd_lcm_left _ _),
    mkRat_numeratorOver b positive (Nat.dvd_lcm_right _ _)]

theorem mkRat_sub_over (a b : Rat) :
    mkRat (numeratorOver (a.den.lcm b.den : Nat) a - numeratorOver (a.den.lcm b.den : Nat) b)
      (a.den.lcm b.den) = a - b := by
  have opposite : numeratorOver (a.den.lcm b.den : Nat) b =
      -numeratorOver (a.den.lcm (-b).den : Nat) (-b) := by
    simp [numeratorOver]
  rw [opposite, sub_neg_eq_add, sub_eq_add_neg]
  exact mkRat_add_over a (-b)

/-- A sum that has a result is exact. -/
theorem eq_add_of_add? {a b c : Rat} (h : add? a b = some c) : c = a + b := by
  obtain ⟨-, -, -, -, rfl⟩ := overCommon?_eq_some_iff.mp h
  exact mkRat_add_over a b

/-! Within the range of exponents every step of a sum stays far below 64 bits: the least common
denominator and both numerators over it are products of two parts of at most 31 bits. -/

theorem natAbs_numeratorOver_le {a : Rat} {n : Nat} (ha : a.num.natAbs ≤ maxPart)
    (hn : n ≤ maxPart) :
    (numeratorOver (a.den * n : Nat) a).natAbs ≤ maxPart * maxPart := by
  have den : (a.den : Int) ≠ 0 := by exact_mod_cast a.den_nz
  rw [numeratorOver, Nat.cast_mul, Int.mul_ediv_cancel_left _ den, Int.natAbs_mul,
    Int.natAbs_natCast]
  exact Nat.mul_le_mul hn ha

theorem overCommon?_of_inRange {combine : Int → Int → Int} {a b : Rat}
    (ha : ExponentInRange a) (hb : ExponentInRange b)
    (hcombine : ∀ m n : Int, (combine m n).natAbs ≤ m.natAbs + n.natAbs) :
    overCommon? combine a b =
      some (mkRat (combine (numeratorOver (a.den.lcm b.den : Nat) a)
        (numeratorOver (a.den.lcm b.den : Nat) b)) (a.den.lcm b.den)) := by
  have common : a.den.lcm b.den ≤ maxPart * maxPart :=
    (Nat.le_of_dvd (Nat.mul_pos a.den_pos b.den_pos) (Nat.lcm_dvd_mul _ _)).trans
      (Nat.mul_le_mul ha.2 hb.2)
  have left : (numeratorOver (a.den.lcm b.den : Nat) a).natAbs ≤ maxPart * maxPart := by
    rw [Nat.lcm_eq_mul_div, Nat.mul_div_assoc _ (Nat.gcd_dvd_right _ _)]
    exact natAbs_numeratorOver_le ha.1 ((Nat.div_le_self _ _).trans hb.2)
  have right : (numeratorOver (a.den.lcm b.den : Nat) b).natAbs ≤ maxPart * maxPart := by
    rw [Nat.lcm_comm, Nat.lcm_eq_mul_div, Nat.mul_div_assoc _ (Nat.gcd_dvd_right _ _)]
    exact natAbs_numeratorOver_le hb.1 ((Nat.div_le_self _ _).trans ha.2)
  -- Two such numerators together stay below twice `maxPart ^ 2`, which is less than `2 ^ 63`.
  have both := hcombine (numeratorOver (a.den.lcm b.den : Nat) a)
    (numeratorOver (a.den.lcm b.den : Nat) b)
  simp only [maxPart] at common left right
  rw [overCommon?_eq_some_iff]
  simp only [isLongInt_iff, and_true]
  omega

theorem add?_of_inRange {a b : Rat} (ha : ExponentInRange a) (hb : ExponentInRange b) :
    add? a b = some (a + b) := by
  rw [add?, overCommon?_of_inRange ha hb Int.natAbs_add_le, mkRat_add_over]

theorem sub?_of_inRange {a b : Rat} (ha : ExponentInRange a) (hb : ExponentInRange b) :
    sub? a b = some (a - b) := by
  rw [sub?, overCommon?_of_inRange ha hb Int.natAbs_sub_le, mkRat_sub_over]

/-! A product is in lowest terms as soon as the common factors are out. -/

theorem mul?_eq_some_iff {a b c : Rat} :
    mul? a b = some c ↔
      isLongInt (a * b).num = true ∧ isLongInt (a * b).den = true ∧ a * b = c := by
  have numerator : a.num / (a.num.gcd b.den : Int) * (b.num / (b.num.gcd a.den : Int)) =
      (a * b).num := by
    change _ = (Rat.mul a b).num
    simp only [Rat.mul, Int.divExact_eq_ediv]
    rfl
  have denominator : a.den / b.num.gcd a.den * (b.den / a.num.gcd b.den) = (a * b).den := by
    change _ = (Rat.mul a b).den
    simp only [Rat.mul, Nat.divExact_eq_div]
    rfl
  simp only [mul?, ← Nat.cast_mul, numerator, denominator]
  simp [Option.bind_eq_some_iff, Rat.mkRat_self]

/-- Whether a product has a result in range depends on the exact product alone. -/
theorem mul?_eq_some_iff_of_inRange {a b c : Rat} (hc : ExponentInRange c) :
    mul? a b = some c ↔ a * b = c := by
  rw [mul?_eq_some_iff]
  constructor
  · intro h
    exact h.2.2
  · rintro rfl
    simp only [ExponentInRange, maxPart] at hc
    simp only [isLongInt_iff, and_true]
    omega

end Fraction

end Dimensional.Number
