import Dimensional.Proofs.Dimension.Canonical
import Dimensional.Proofs.Number.Product
import Dimensional.Proofs.Number.SmallFraction
import Dimensional.Proofs.Quantity.Range

/-!
When powers and roots of dimensioned quantities have a result.  A real power goes by the fraction
that its exponent stands for: an integer wants the scaled exponents in range, any other fraction
wants them to be integers besides.  Roots undo powers.  An integer beyond the range of exponents
stands for no fraction, so the real power is refused where the integer power may have a result; and
where a half leaves the range, the root and the power to one half are refused for different reasons.
-/

namespace Dimensional

namespace Dimension

variable {d : Dimension} {r : Rat}

theorem isIntegral_iff : d.isIntegral = true ↔ ∀ b, (d.exponent b).den = 1 := by
  rw [isIntegral, Vector.all_eq_true]
  constructor
  · intro h b
    exact eq_of_beq (h b.index b.index.isLt)
  · intro h i hi
    obtain ⟨b, hb⟩ := Base.exists_index ⟨i, hi⟩
    have slot : d.exponents[i] = d.exponent b := by simp [exponent, hb]
    rw [slot, h b, beq_self_eq_true]

theorem exponentInRange_of_den_eq_one {e : Rat} (whole : e.den = 1) :
    ExponentInRange e ↔ e.num.natAbs ≤ maxPart := by
  have denominator : e.den ≤ maxPart := whole ▸ by decide
  exact and_iff_left denominator

/-- There is a dimension with the scaled exponents, and they are integers. -/
def ScalesToIntegral (d : Dimension) (r : Rat) : Prop :=
  ∃ e, d.scale? r = some e ∧ e.isIntegral = true

theorem scalesToIntegral_iff_of_scale? {e : Dimension} (scaled : d.scale? r = some e) :
    d.ScalesToIntegral r ↔ e.isIntegral = true := by
  rw [ScalesToIntegral, scaled]
  constructor
  · rintro ⟨_, ⟨⟩, integral⟩
    exact integral
  · intro integral
    exact ⟨e, rfl, integral⟩

theorem scalesToIntegral_iff :
    d.ScalesToIntegral r ↔
      ∀ b, (d.exponent b * r).den = 1 ∧ (d.exponent b * r).num.natAbs ≤ maxPart := by
  constructor
  · rintro ⟨e, scaled, integral⟩ b
    obtain ⟨range, same⟩ := scale?_eq_some_iff_exact.mp scaled
    have whole := isIntegral_iff.mp integral b
    rw [← same b]
    exact ⟨whole, (exponentInRange_of_den_eq_one whole).mp (inRange_iff.mp range b)⟩
  · intro h
    have found := (isExact_scale? d r).isSome_iff.mpr
      fun b => (exponentInRange_of_den_eq_one (h b).1).mpr (h b).2
    obtain ⟨e, scaled⟩ := Option.isSome_iff_exists.mp found
    refine ⟨e, scaled, isIntegral_iff.mpr fun b => ?_⟩
    rw [(isExact_scale? d r).exponent_eq e scaled b]
    exact (h b).1

theorem scalesToIntegral_half_iff (range : d.InRange) :
    d.ScalesToIntegral (1 / 2) ↔ ∀ b, (d.exponent b / 2).den = 1 := by
  rw [scalesToIntegral_iff]
  apply forall_congr'
  intro b
  rw [mul_one_div]
  apply and_iff_left_of_imp
  -- The exponent is twice an integer, so that integer is no larger than it.
  intro whole
  have double : d.exponent b = ((d.exponent b / 2).num * 2 : Int) := by
    rw [Int.cast_mul, Rat.coe_int_num_of_den_eq_one whole]
    exact (div_mul_cancel₀ _ two_ne_zero).symm
  have bound := (inRange_iff.mp range b).1
  rw [double, Rat.num_intCast] at bound
  omega

end Dimension

namespace Quantity

open Dimension Number

variable {q : Quantity} {x : Float} {r : Rat} {d : Dimension}

/-! What each operation comes to, step by step. -/

section Steps

theorem realPower_of_none (dimensioned : q.isUnitless = false) (h : smallFraction? x = none) :
    q.realPower x = .error (.nonIntegralDimension .powf q.dimension x) := by
  simp only [realPower, dimensioned, h]
  rfl

theorem realPower_of_integer (dimensioned : q.isUnitless = false) (h : smallFraction? x = some r)
    (whole : r.den = 1) : q.realPower x = q.intPower r.num := by
  simp only [realPower, dimensioned, h, if_pos whole]
  rfl

theorem realPower_of_scale?_eq_none (dimensioned : q.isUnitless = false)
    (h : smallFraction? x = some r) (broken : r.den ≠ 1) (scaled : q.dimension.scale? r = none) :
    q.realPower x = .error (.exponentOverflow .powf q.dimension) := by
  simp only [realPower, dimensioned, h, if_neg broken, scaled]
  rfl

theorem realPower_of_scale? (dimensioned : q.isUnitless = false) (h : smallFraction? x = some r)
    (broken : r.den ≠ 1) (scaled : q.dimension.scale? r = some d) :
    q.realPower x = if d.isIntegral then .ok ⟨Number.realPower q.value x, d⟩
      else .error (.nonIntegralDimension .powf q.dimension x) := by
  simp only [realPower, dimensioned, h, if_neg broken, scaled]
  rfl

theorem realPower_of_isUnitless (unitless : q.isUnitless = true) :
    q.realPower x = .ok ⟨Number.realPower q.value x, q.dimension⟩ := by
  simp only [realPower, if_pos unitless]

theorem sqrt_of_not_scalesToIntegral (missing : ¬ q.dimension.ScalesToIntegral (1 / 2)) :
    q.sqrt = .error (.nonIntegralDimension .sqrt q.dimension 0.5) := by
  have filtered : (q.dimension.scale? (1 / 2)).filter (·.isIntegral) = none := by
    rw [Option.filter_eq_none_iff]
    intro d scaled integral
    exact missing ⟨d, scaled, integral⟩
  simp only [sqrt, filtered]

theorem sqrt_of_isIntegral (scaled : q.dimension.scale? (1 / 2) = some d)
    (integral : d.isIntegral = true) :
    q.sqrt = if q.value < 0.0 then .error (.domain .sqrt q.value) else .ok ⟨q.value.sqrt, d⟩ := by
  simp only [sqrt, scaled, Option.filter_some, integral, if_true]

theorem valuePower_two_not_lt_zero (x : Float) : ¬ valuePower x 2 < 0.0 := by
  rw [valuePower, if_pos (by decide), Number.intPower, if_neg (by decide)]
  exact (unsigned_repeatedSquare_of_even x rfl).not_lt_zero

end Steps

/-! When there is a result, and of which dimension. -/

section Gates

/-- There is a result exactly under the condition, and its dimension then has these exponents. -/
structure Succeeds (outcome : Except Failure Quantity) (condition : Prop)
    (exponents : Base → Rat) : Prop where
  ok_iff : (∃ z, outcome = .ok z) ↔ condition
  exponent_eq : ∀ z, outcome = .ok z → ∀ b, z.dimension.exponent b = exponents b

theorem IsExact.succeeds {outcome : Except Failure Quantity} {refusal : Failure}
    {exponents : Base → Rat} (h : IsExact outcome refusal exponents) :
    Succeeds outcome (∀ b, ExponentInRange (exponents b)) exponents where
  ok_iff := by
    cases result : outcome with
    | ok z =>
        refine iff_of_true ⟨z, rfl⟩ fun b => ?_
        by_contra outside
        have refused := (h.error_iff refusal).mpr ⟨rfl, b, outside⟩
        rw [result] at refused
        contradiction
    | error f =>
        obtain ⟨-, b, outside⟩ := (h.error_iff f).mp result
        exact iff_of_false nofun fun range => outside (range b)
  exponent_eq := h.exponent_eq

theorem realPower_eq_ok_iff (dimensioned : q.isUnitless = false) (h : smallFraction? x = some r)
    (broken : r.den ≠ 1) {z : Quantity} :
    q.realPower x = .ok z ↔ ∃ d, q.dimension.scale? r = some d ∧ d.isIntegral = true ∧
      z = ⟨Number.realPower q.value x, d⟩ := by
  cases scaled : q.dimension.scale? r with
  | none =>
      rw [realPower_of_scale?_eq_none dimensioned h broken scaled]
      exact iff_of_false nofun nofun
  | some d =>
      rw [realPower_of_scale? dimensioned h broken scaled]
      cases integral : d.isIntegral with
      | true =>
          constructor
          · rintro ⟨⟩
            exact ⟨d, rfl, integral, rfl⟩
          · rintro ⟨_, ⟨⟩, -, rfl⟩
            rfl
      | false =>
          refine iff_of_false nofun ?_
          rintro ⟨_, ⟨⟩, whole, -⟩
          rw [integral] at whole
          contradiction

theorem sqrt_eq_ok_iff {z : Quantity} :
    q.sqrt = .ok z ↔ ∃ d, q.dimension.scale? (1 / 2) = some d ∧ d.isIntegral = true ∧
      ¬ q.value < 0.0 ∧ z = ⟨q.value.sqrt, d⟩ := by
  by_cases half : q.dimension.ScalesToIntegral (1 / 2)
  · obtain ⟨d, scaled, integral⟩ := half
    rw [sqrt_of_isIntegral scaled integral, scaled]
    by_cases negative : q.value < 0.0
    · rw [if_pos negative]
      refine iff_of_false nofun ?_
      rintro ⟨_, -, -, natural, -⟩
      exact natural negative
    · rw [if_neg negative]
      constructor
      · rintro ⟨⟩
        exact ⟨d, rfl, integral, negative, rfl⟩
      · rintro ⟨_, ⟨⟩, -, -, rfl⟩
        rfl
  · rw [sqrt_of_not_scalesToIntegral half]
    refine iff_of_false nofun ?_
    rintro ⟨d, scaled, integral, -⟩
    exact half ⟨d, scaled, integral⟩

theorem sqrt_eq_domain_iff :
    (∃ op y, q.sqrt = .error (.domain op y)) ↔
      q.dimension.ScalesToIntegral (1 / 2) ∧ q.value < 0.0 := by
  by_cases half : q.dimension.ScalesToIntegral (1 / 2)
  · refine Iff.trans ?_ (and_iff_right half).symm
    obtain ⟨d, scaled, integral⟩ := half
    rw [sqrt_of_isIntegral scaled integral]
    by_cases negative : q.value < 0.0 <;> simp [negative]
  · rw [sqrt_of_not_scalesToIntegral half]
    exact iff_of_false nofun fun h => half h.1

theorem succeeds_realPower_of_integer (dimensioned : q.isUnitless = false)
    (h : smallFraction? x = some r) (whole : r.den = 1) :
    Succeeds (q.realPower x) (∀ b, ExponentInRange (q.dimension.exponent b * r))
      fun b => q.dimension.exponent b * r := by
  have integer : ((r.num : Int) : Rat) = r := Rat.coe_int_num_of_den_eq_one whole
  have exact := (isExact_intPower q r.num).succeeds
  rw [← realPower_of_integer dimensioned h whole] at exact
  simp only [integer] at exact
  exact exact

theorem succeeds_realPower_of_fraction (dimensioned : q.isUnitless = false)
    (h : smallFraction? x = some r) (broken : r.den ≠ 1) :
    Succeeds (q.realPower x)
      (∀ b, (q.dimension.exponent b * r).den = 1 ∧
        (q.dimension.exponent b * r).num.natAbs ≤ maxPart)
      fun b => q.dimension.exponent b * r where
  ok_iff := by
    rw [← scalesToIntegral_iff]
    constructor
    · rintro ⟨z, result⟩
      obtain ⟨d, scaled, integral, -⟩ := (realPower_eq_ok_iff dimensioned h broken).mp result
      exact ⟨d, scaled, integral⟩
    · rintro ⟨d, scaled, integral⟩
      exact ⟨_, (realPower_eq_ok_iff dimensioned h broken).mpr ⟨d, scaled, integral, rfl⟩⟩
  exponent_eq := by
    intro z result
    obtain ⟨d, scaled, -, rfl⟩ := (realPower_eq_ok_iff dimensioned h broken).mp result
    exact (isExact_scale? q.dimension r).exponent_eq d scaled

theorem succeeds_sqrt (range : q.dimension.InRange) :
    Succeeds q.sqrt ((∀ b, (q.dimension.exponent b / 2).den = 1) ∧ ¬ q.value < 0.0)
      fun b => q.dimension.exponent b / 2 where
  ok_iff := by
    rw [← scalesToIntegral_half_iff range]
    constructor
    · rintro ⟨z, result⟩
      obtain ⟨d, scaled, integral, natural, -⟩ := sqrt_eq_ok_iff.mp result
      exact ⟨⟨d, scaled, integral⟩, natural⟩
    · rintro ⟨⟨d, scaled, integral⟩, natural⟩
      exact ⟨_, sqrt_eq_ok_iff.mpr ⟨d, scaled, integral, natural, rfl⟩⟩
  exponent_eq := by
    intro z result b
    obtain ⟨d, scaled, -, -, rfl⟩ := sqrt_eq_ok_iff.mp result
    rw [(isExact_scale? q.dimension (1 / 2)).exponent_eq d scaled b, mul_one_div]

/-- What a real power comes to, by the fraction that its exponent stands for. -/
structure PowerGate (q : Quantity) (x : Float) : Prop where
  none : smallFraction? x = none →
    q.realPower x = .error (.nonIntegralDimension .powf q.dimension x)
  integer : ∀ r, smallFraction? x = some r → r.den = 1 →
    Succeeds (q.realPower x) (∀ b, ExponentInRange (q.dimension.exponent b * r))
      fun b => q.dimension.exponent b * r
  fraction : ∀ r, smallFraction? x = some r → r.den ≠ 1 →
    Succeeds (q.realPower x)
      (∀ b, (q.dimension.exponent b * r).den = 1 ∧
        (q.dimension.exponent b * r).num.natAbs ≤ maxPart)
      fun b => q.dimension.exponent b * r

structure RootGate (q : Quantity) : Prop where
  root : Succeeds q.sqrt ((∀ b, (q.dimension.exponent b / 2).den = 1) ∧ ¬ q.value < 0.0)
    fun b => q.dimension.exponent b / 2
  domain_iff : (∃ op y, q.sqrt = .error (.domain op y)) ↔
    (∀ b, (q.dimension.exponent b / 2).den = 1) ∧ q.value < 0.0

theorem powerGate (dimensioned : q.isUnitless = false) (x : Float) : PowerGate q x where
  none := realPower_of_none dimensioned
  integer := fun _ => succeeds_realPower_of_integer dimensioned
  fraction := fun _ => succeeds_realPower_of_fraction dimensioned

theorem rootGate (range : q.dimension.InRange) : RootGate q where
  root := succeeds_sqrt range
  domain_iff := by
    rw [sqrt_eq_domain_iff, scalesToIntegral_half_iff range]

end Gates

/-! Roots undo powers, whatever the value: an integral dimension comes back. -/

section Roots

variable {y : Quantity} {n : Int}

theorem value_of_intPower (powered : q.intPower n = .ok y) : y.value = valuePower q.value n := by
  rw [intPower] at powered
  cases scaled : q.dimension.power? n with
  | none =>
      rw [scaled] at powered
      contradiction
  | some d =>
      rw [scaled] at powered
      obtain rfl := Except.ok.inj powered
      rfl

theorem sqrt_of_intPower_two (integral : q.dimension.isIntegral = true)
    (powered : q.intPower 2 = .ok y) :
    ∃ z, y.sqrt = .ok z ∧ z.dimension = q.dimension := by
  have half (b : Base) : y.dimension.exponent b / 2 = q.dimension.exponent b := by
    rw [(isExact_intPower q 2).exponent_eq y powered b]
    exact mul_div_cancel_right₀ _ two_ne_zero
  have root := succeeds_sqrt (makesInRange_intPower 2 y powered)
  obtain ⟨z, result⟩ : ∃ z, y.sqrt = .ok z := by
    refine root.ok_iff.mpr ⟨fun b => ?_, ?_⟩
    · rw [half b]
      exact isIntegral_iff.mp integral b
    · rw [value_of_intPower powered]
      exact valuePower_two_not_lt_zero q.value
  refine ⟨z, result, ext_exponent fun b => ?_⟩
  rw [root.exponent_eq z result b, half b]

theorem realPower_of_intPower (range : q.dimension.InRange)
    (integral : q.dimension.isIntegral = true) {k : Nat} (low : 2 ≤ k) (high : k ≤ maxDenominator)
    (powered : q.intPower k = .ok y) :
    ∃ z, y.realPower (1.0 / Float.ofNat k) = .ok z ∧ z.dimension = q.dimension := by
  have nonzero : (k : Rat) ≠ 0 := by
    rw [Nat.cast_ne_zero]
    omega
  have root (b : Base) : y.dimension.exponent b * (1 / (k : Rat)) = q.dimension.exponent b := by
    rw [(isExact_intPower q k).exponent_eq y powered b, mul_assoc, Int.cast_natCast,
      mul_one_div_cancel nonzero, mul_one]
  -- A unitless power takes any exponent, so the fraction that this one stands for plays no part.
  by_cases plain : y.isUnitless = true
  · refine ⟨_, realPower_of_isUnitless plain, ext_exponent fun b => ?_⟩
    rw [← root b, isUnitless_iff.mp plain, exponent_unitless, zero_mul]
  · have broken : (1 / (k : Rat)).den ≠ 1 := by
      rw [one_div, Rat.inv_natCast_den_of_pos (by omega)]
      omega
    have power := succeeds_realPower_of_fraction (Bool.eq_false_iff.mpr plain)
      (smallFraction?_reciprocal low high) broken
    obtain ⟨z, result⟩ : ∃ z, y.realPower (1.0 / Float.ofNat k) = .ok z := by
      refine power.ok_iff.mpr fun b => ?_
      rw [root b]
      exact ⟨isIntegral_iff.mp integral b, (inRange_iff.mp range b).1⟩
    refine ⟨z, result, ext_exponent fun b => ?_⟩
    rw [power.exponent_eq z result b, root b]

structure RootsUndoPowers (q : Quantity) : Prop where
  sqrt : ∀ y, q.intPower 2 = .ok y → ∃ z, y.sqrt = .ok z ∧ z.dimension = q.dimension
  realPower : ∀ k : Nat, 2 ≤ k → k ≤ 16 → ∀ y, q.intPower k = .ok y →
    ∃ z, y.realPower (1.0 / Float.ofNat k) = .ok z ∧ z.dimension = q.dimension

theorem powerGate_and_rootGate (range : q.dimension.InRange) :
    (q.isUnitless = false → ∀ x, PowerGate q x) ∧ RootGate q ∧
      (q.dimension.isIntegral = true → RootsUndoPowers q) := by
  refine ⟨powerGate, rootGate range, ?_⟩
  intro integral
  constructor
  case sqrt =>
    intro y powered
    exact sqrt_of_intPower_two integral powered
  case realPower =>
    intro k low high y powered
    exact realPower_of_intPower range integral low high powered

/-- A square has a square root, and powers to one half. -/
theorem powerGate_and_rootGate_square :
    (basePower .length 2).InRange ∧ (basePower .length 2).isUnitless = false ∧
      (basePower .length 2).isIntegral = true ∧
      (∃ z, sqrt ⟨9.0, basePower .length 2⟩ = .ok z) ∧
      (∃ z, realPower ⟨9.0, basePower .length 2⟩ 0.5 = .ok z) ∧
      RootsUndoPowers ⟨9.0, basePower .length 2⟩ := by
  have range : (basePower .length 2).InRange := inRange_basePower (by decide) _
  have dimensioned : (basePower .length 2).isUnitless = false := by decide +kernel
  have integral : (basePower .length 2).isIntegral = true := by decide +kernel
  have natural : ¬ (9.0 : Float) < 0.0 := by decide +kernel
  have halves (b : Base) : ((basePower .length 2).exponent b / 2).den = 1 := by
    cases b <;> decide +kernel
  have powers (b : Base) : ((basePower .length 2).exponent b * (1 / 2)).den = 1 ∧
      ((basePower .length 2).exponent b * (1 / 2)).num.natAbs ≤ maxPart := by
    cases b <;> decide +kernel
  obtain ⟨power, root, undo⟩ := powerGate_and_rootGate (q := ⟨9.0, basePower .length 2⟩) range
  exact ⟨range, dimensioned, integral, root.root.ok_iff.mpr ⟨halves, natural⟩,
    ((power dimensioned 0.5).fraction _ smallFraction?_half (by decide +kernel)).ok_iff.mpr
      powers,
    undo integral⟩

end Roots

/-! Integer exponents, given as floats or as integers. -/

section Integers

variable {n : Int}

/-- The same result, or refusals of one kind. -/
def SameOutcome (a b : Except Failure Quantity) : Prop :=
  a.mapError Failure.kind = b.mapError Failure.kind

theorem realPower_of_toRat? (dimensioned : q.isUnitless = false) (whole : toRat? x = some (n : Rat))
    (small : n.natAbs ≤ maxPart) : q.realPower x = q.intPower n := by
  rw [realPower_of_integer dimensioned (smallFraction?_of_integer whole small) (Rat.den_intCast n),
    Rat.num_intCast]

theorem realPower_of_beyond (dimensioned : q.isUnitless = false) (whole : toRat? x = some (n : Rat))
    (beyond : maxPart < n.natAbs) :
    q.realPower x = .error (.nonIntegralDimension .powf q.dimension x) :=
  realPower_of_none dimensioned (smallFraction?_of_beyond whole beyond)

theorem kind_of_intPower {f : Failure} (refused : q.intPower n = .error f) :
    f.kind = .exponentOverflow := by
  obtain ⟨rfl, -⟩ := ((isExact_intPower q n).error_iff f).mp refused
  rfl

theorem not_sameOutcome_intPower (d : Dimension) (x : Float) :
    ¬ SameOutcome (.error (.nonIntegralDimension .powf d x)) (q.intPower n) := by
  rw [SameOutcome]
  cases powered : q.intPower n with
  | ok z => exact nofun
  | error f =>
      rw [Except.mapError, Except.mapError, kind_of_intPower powered]
      exact nofun

/-- An integer as a float is the same exponent up to the largest part of an exponent.  Beyond it the
real power is refused, also where the integer power has a result. -/
theorem sameOutcome_realPower_iff (dimensioned : q.isUnitless = false)
    (whole : toRat? x = some (n : Rat)) :
    (SameOutcome (q.realPower x) (q.intPower n) ↔ n.natAbs ≤ maxPart) ∧
      (n.natAbs ≤ maxPart → q.realPower x = q.intPower n) ∧
      (maxPart < n.natAbs →
        q.realPower x = .error (.nonIntegralDimension .powf q.dimension x)) := by
  refine ⟨⟨?_, ?_⟩, realPower_of_toRat? dimensioned whole, realPower_of_beyond dimensioned whole⟩
  · contrapose!
    intro beyond
    rw [realPower_of_beyond dimensioned whole beyond]
    exact not_sameOutcome_intPower q.dimension x
  · intro small
    rw [SameOutcome, realPower_of_toRat? dimensioned whole small]

theorem sameOutcome_realPower_iff_largest :
    (basePower .length (1 / 4)).isUnitless = false ∧
      toRat? 2147483647.0 = some ((2147483647 : Int) : Rat) ∧
      realPower ⟨1.0, basePower .length (1 / 4)⟩ 2147483647.0 =
        intPower ⟨1.0, basePower .length (1 / 4)⟩ 2147483647 := by
  have dimensioned : (basePower .length (1 / 4)).isUnitless = false := by decide +kernel
  have whole : toRat? 2147483647.0 = some ((2147483647 : Int) : Rat) := by decide +kernel
  have same := sameOutcome_realPower_iff (q := ⟨1.0, basePower .length (1 / 4)⟩) dimensioned whole
  exact ⟨dimensioned, whole, same.2.1 (by decide)⟩

/-- The next power of a fourth root of a length has an exponent well in range. -/
theorem not_sameOutcome_realPower_beyond :
    (basePower .length (1 / 4)).InRange ∧ (basePower .length (1 / 4)).isUnitless = false ∧
      toRat? (Float.ofInt 2147483648) = some ((2147483648 : Int) : Rat) ∧
      intPower ⟨1.0, basePower .length (1 / 4)⟩ 2147483648 =
        .ok ⟨1.0, basePower .length 536870912⟩ ∧
      realPower ⟨1.0, basePower .length (1 / 4)⟩ (Float.ofInt 2147483648) =
        .error (.nonIntegralDimension .powf (basePower .length (1 / 4)) (Float.ofInt 2147483648)) ∧
      ¬ SameOutcome (realPower ⟨1.0, basePower .length (1 / 4)⟩ (Float.ofInt 2147483648))
        (intPower ⟨1.0, basePower .length (1 / 4)⟩ 2147483648) := by
  have range : (basePower .length (1 / 4)).InRange := inRange_basePower (by decide +kernel) _
  have dimensioned : (basePower .length (1 / 4)).isUnitless = false := by decide +kernel
  have whole : toRat? (Float.ofInt 2147483648) = some ((2147483648 : Int) : Rat) := by
    decide +kernel
  have scaled : (basePower .length (1 / 4)).power? 2147483648 =
      some (basePower .length 536870912) := by decide +kernel
  have one : valuePower 1.0 2147483648 = 1.0 := by decide +kernel
  have powered : intPower ⟨1.0, basePower .length (1 / 4)⟩ 2147483648 =
      .ok ⟨1.0, basePower .length 536870912⟩ := by
    rw [intPower, scaled, one]
    rfl
  have refused := realPower_of_beyond (q := ⟨1.0, basePower .length (1 / 4)⟩) dimensioned whole
    (by decide)
  refine ⟨range, dimensioned, whole, powered, refused, ?_⟩
  rw [refused]
  exact not_sameOutcome_intPower _ _

end Integers

/-! The square root beside the power to one half. -/

section Halves

/-- What comes of an operation but for the values: a dimension, or a kind of refusal. -/
def gate (outcome : Except Failure Quantity) : Except Failure.Kind Dimension :=
  (outcome.map dimension).mapError Failure.kind

theorem half_isSome_iff :
    (q.dimension.scale? (1 / 2)).isSome = true ↔
      ∀ b, ExponentInRange (q.dimension.exponent b / 2) := by
  rw [(isExact_scale? q.dimension (1 / 2)).isSome_iff]
  simp only [mul_one_div]

theorem gate_sqrt_of_broken (broken : ∃ b, (q.dimension.exponent b / 2).den ≠ 1) :
    gate q.sqrt = .error .nonIntegralDimension := by
  have missing : ¬ q.dimension.ScalesToIntegral (1 / 2) := by
    rw [scalesToIntegral_iff]
    intro halves
    obtain ⟨b, broken⟩ := broken
    rw [← mul_one_div] at broken
    exact broken (halves b).1
  rw [sqrt_of_not_scalesToIntegral missing]
  rfl

theorem gate_realPower_half_of_outside (dimensioned : q.isUnitless = false)
    (outside : ∃ b, ¬ ExponentInRange (q.dimension.exponent b / 2)) :
    gate (q.realPower 0.5) = .error .exponentOverflow := by
  have missing : q.dimension.scale? (1 / 2) = none := by
    rw [← Option.not_isSome_iff_eq_none, half_isSome_iff]
    exact not_forall.mpr outside
  rw [realPower_of_scale?_eq_none dimensioned smallFraction?_half (by decide +kernel) missing]
  rfl

theorem gate_sqrt_eq_gate_realPower_half (dimensioned : q.isUnitless = false)
    (natural : ¬ q.value < 0.0) (inside : ∀ b, ExponentInRange (q.dimension.exponent b / 2)) :
    gate q.sqrt = gate (q.realPower 0.5) := by
  obtain ⟨d, scaled⟩ := Option.isSome_iff_exists.mp (half_isSome_iff.mpr inside)
  rw [realPower_of_scale? dimensioned smallFraction?_half (by decide +kernel) scaled]
  by_cases integral : d.isIntegral = true
  · rw [sqrt_of_isIntegral scaled integral, if_neg natural, if_pos integral]
    rfl
  · have missing := mt (scalesToIntegral_iff_of_scale? scaled).mp integral
    rw [sqrt_of_not_scalesToIntegral missing, if_neg integral]
    rfl

theorem gate_sqrt_ne_exponentOverflow : gate q.sqrt ≠ .error .exponentOverflow := by
  by_cases half : q.dimension.ScalesToIntegral (1 / 2)
  · obtain ⟨d, scaled, integral⟩ := half
    rw [sqrt_of_isIntegral scaled integral]
    split <;> exact nofun
  · rw [sqrt_of_not_scalesToIntegral half]
    exact nofun

/-- The square root and the power to one half differ in the refusal only, and only where a half is
out of range: the root finds that it is no integer, the power that it overflows. -/
theorem gate_sqrt_eq_iff (dimensioned : q.isUnitless = false) (natural : ¬ q.value < 0.0) :
    (gate q.sqrt = gate (q.realPower 0.5) ↔
        ∀ b, ExponentInRange (q.dimension.exponent b / 2)) ∧
      ((∃ b, (q.dimension.exponent b / 2).den ≠ 1) →
        gate q.sqrt = .error .nonIntegralDimension) ∧
      ((∃ b, ¬ ExponentInRange (q.dimension.exponent b / 2)) →
        gate (q.realPower 0.5) = .error .exponentOverflow) := by
  refine ⟨⟨?_, gate_sqrt_eq_gate_realPower_half dimensioned natural⟩, gate_sqrt_of_broken,
    gate_realPower_half_of_outside dimensioned⟩
  contrapose!
  intro outside
  rw [gate_realPower_half_of_outside dimensioned outside]
  exact gate_sqrt_ne_exponentOverflow

theorem gate_sqrt_eq_iff_square :
    (basePower .length 2).isUnitless = false ∧ ¬ (9.0 : Float) < 0.0 ∧
      gate (sqrt ⟨9.0, basePower .length 2⟩) = gate (realPower ⟨9.0, basePower .length 2⟩ 0.5) := by
  have dimensioned : (basePower .length 2).isUnitless = false := by decide +kernel
  have natural : ¬ (9.0 : Float) < 0.0 := by decide +kernel
  have inside (b : Base) : ExponentInRange ((basePower .length 2).exponent b / 2) := by
    cases b <;> decide +kernel
  exact ⟨dimensioned, natural,
    (gate_sqrt_eq_iff (q := ⟨9.0, basePower .length 2⟩) dimensioned natural).1.mpr inside⟩

/-- The smallest positive exponent has no half in range. -/
theorem gate_sqrt_ne_smallest :
    (basePower .length (1 / 2147483647)).InRange ∧
      (basePower .length (1 / 2147483647)).isUnitless = false ∧ ¬ (1.0 : Float) < 0.0 ∧
      ((basePower .length (1 / 2147483647)).exponent .length / 2).den ≠ 1 ∧
      gate (sqrt ⟨1.0, basePower .length (1 / 2147483647)⟩) = .error .nonIntegralDimension ∧
      gate (realPower ⟨1.0, basePower .length (1 / 2147483647)⟩ 0.5) =
        .error .exponentOverflow := by
  have range : (basePower .length (1 / 2147483647)).InRange :=
    inRange_basePower (by decide +kernel) _
  have dimensioned : (basePower .length (1 / 2147483647)).isUnitless = false := by decide +kernel
  have broken : ((basePower .length (1 / 2147483647)).exponent .length / 2).den ≠ 1 := by
    decide +kernel
  have outside : ¬ ExponentInRange ((basePower .length (1 / 2147483647)).exponent .length / 2) := by
    decide +kernel
  exact ⟨range, dimensioned, by decide +kernel, broken,
    gate_sqrt_of_broken (q := ⟨1.0, basePower .length (1 / 2147483647)⟩) ⟨.length, broken⟩,
    gate_realPower_half_of_outside (q := ⟨1.0, basePower .length (1 / 2147483647)⟩) dimensioned
      ⟨.length, outside⟩⟩

end Halves

end Quantity

end Dimensional
