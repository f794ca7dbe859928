import Dimensional.Number.Fraction

/-!
Dimensions: one exact rational exponent for each of eight base quantities.  Products add exponents,
quotients subtract them and powers scale them; a result is refused when an exponent leaves the
range that dimensions are kept in.
-/

namespace Dimensional

inductive Base where
  | length
  | mass
  | time
  | temperature
  | current
  | substance
  | luminousIntensity
  | angle
deriving DecidableEq, Repr

namespace Base

/-- The order of the exponents in a dimension. -/
def all : List Base :=
  [length, mass, time, temperature, current, substance, luminousIntensity, angle]

def index : Base → Fin 8
  | length => 0
  | mass => 1
  | time => 2
  | temperature => 3
  | current => 4
  | substance => 5
  | luminousIntensity => 6
  | angle => 7

def symbol : Base → String
  | length => "m"
  | mass => "kg"
  | time => "s"
  | temperature => "K"
  | current => "A"
  | substance => "mol"
  | luminousIntensity => "cd"
  | angle => "rad"

def ofSymbol? (symbol : String) : Option Base :=
  all.find? (·.symbol == symbol)

@[simp] theorem mem_all (q : Base) : q ∈ all := by
  cases q <;> decide

theorem exists_index (i : Fin 8) : ∃ q, index q = i := by
  match i with
  | 0 => exact ⟨length, rfl⟩
  | 1 => exact ⟨mass, rfl⟩
  | 2 => exact ⟨time, rfl⟩
  | 3 => exact ⟨temperature, rfl⟩
  | 4 => exact ⟨current, rfl⟩
  | 5 => exact ⟨substance, rfl⟩
  | 6 => exact ⟨luminousIntensity, rfl⟩
  | 7 => exact ⟨angle, rfl⟩

theorem forall_index {P : Fin 8 → Prop} : (∀ i, P i) ↔ ∀ q : Base, P q.index := by
  constructor
  · intro h q
    exact h q.index
  · intro h i
    obtain ⟨q, rfl⟩ := exists_index i
    exact h q

end Base

structure Dimension where
  exponents : Vector Rat 8
deriving DecidableEq

namespace Dimension

/-- The largest numerator and the largest denominator of an exponent. -/
def maxPart : Nat := 2147483647

def ExponentInRange (e : Rat) : Prop :=
  e.num.natAbs ≤ maxPart ∧ e.den ≤ maxPart

instance (e : Rat) : Decidable (ExponentInRange e) :=
  inferInstanceAs (Decidable (_ ∧ _))

def InRange (d : Dimension) : Prop :=
  ∀ e ∈ d.exponents, ExponentInRange e

instance (d : Dimension) : Decidable d.InRange :=
  inferInstanceAs (Decidable (∀ e ∈ d.exponents, ExponentInRange e))

def unitless : Dimension :=
  ⟨Vector.replicate 8 0⟩

def base (q : Base) : Dimension :=
  ⟨(Vector.replicate 8 0).set q.index 1⟩

def angle : Dimension :=
  base .angle

def ofInts (exponents : Vector Int 8) : Dimension :=
  ⟨exponents.map fun (n : Int) => (n : Rat)⟩

/-- The dimension itself if all its exponents are in range. -/
def checked (d : Dimension) : Option Dimension :=
  if d.InRange then some d else none

def ofRats? (exponents : Vector Rat 8) : Option Dimension :=
  checked ⟨exponents⟩

def exponent (d : Dimension) (q : Base) : Rat :=
  d.exponents[q.index]

def isUnitless (d : Dimension) : Bool :=
  d.exponents.all (· == 0)

def isAngle (d : Dimension) : Bool :=
  d == angle

def isIntegral (d : Dimension) : Bool :=
  d.exponents.all (·.den == 1)

def toFloats (d : Dimension) : Vector Float 8 :=
  d.exponents.map Number.ratToFloat

def recip (d : Dimension) : Dimension :=
  ⟨d.exponents.map (-·)⟩

/-- The dimension of exponents that were computed one by one, if each has a result in range. -/
def ofResults? (results : Vector (Option Rat) 8) : Option Dimension :=
  if results.all (·.any (ExponentInRange ·)) then some ⟨results.map (·.getD 0)⟩ else none

def mul? (a b : Dimension) : Option Dimension :=
  ofResults? (Vector.zipWith Number.Fraction.add? a.exponents b.exponents)

def div? (a b : Dimension) : Option Dimension :=
  ofResults? (Vector.zipWith Number.Fraction.sub? a.exponents b.exponents)

def scale? (d : Dimension) (factor : Rat) : Option Dimension :=
  ofResults? (d.exponents.map (Number.Fraction.mul? · factor))

def power? (d : Dimension) (n : Int) : Option Dimension :=
  d.scale? n

instance : Inhabited Dimension := ⟨unitless⟩

theorem checked_eq_some_iff {d e : Dimension} : d.checked = some e ↔ d.InRange ∧ d = e := by
  simp only [checked]
  split <;> simp_all

theorem checked_eq_none_iff {d : Dimension} : d.checked = none ↔ ¬ d.InRange := by
  simp [checked]

theorem inRange_of_checked {d e : Dimension} (h : d.checked = some e) : e.InRange := by
  obtain ⟨range, rfl⟩ := checked_eq_some_iff.1 h
  exact range

/-- A dimension is what its exponents are. -/
@[ext] theorem ext_exponent {d e : Dimension} (h : ∀ q, d.exponent q = e.exponent q) : d = e := by
  obtain ⟨d⟩ := d
  obtain ⟨e⟩ := e
  have slots : ∀ i : Fin 8, d[i] = e[i] := Base.forall_index.mpr h
  congr 1
  ext i hi
  exact slots ⟨i, hi⟩

@[simp] theorem exponent_unitless (q : Base) : unitless.exponent q = 0 := by
  simp [unitless, exponent]

theorem exponent_base (p q : Base) : (base p).exponent q = if p = q then 1 else 0 := by
  cases p <;> cases q <;> rfl

@[simp] theorem exponent_ofInts (exponents : Vector Int 8) (q : Base) :
    (ofInts exponents).exponent q = (exponents[q.index] : Int) := by
  simp [ofInts, exponent]

@[simp] theorem exponent_recip (d : Dimension) (q : Base) :
    d.recip.exponent q = -d.exponent q := by
  simp [recip, exponent]

theorem inRange_iff {d : Dimension} : d.InRange ↔ ∀ q, ExponentInRange (d.exponent q) := by
  constructor
  · intro h q
    exact h _ (Vector.getElem_mem q.index.isLt)
  · intro h e he
    obtain ⟨i, hi, rfl⟩ := Vector.getElem_of_mem he
    have slots : ∀ i : Fin 8, ExponentInRange d.exponents[i] := Base.forall_index.mpr h
    exact slots ⟨i, hi⟩

theorem isUnitless_iff {d : Dimension} : d.isUnitless = true ↔ d = unitless := by
  rw [isUnitless, Vector.all_eq_true]
  constructor
  · intro h
    apply ext_exponent
    intro q
    rw [exponent_unitless]
    exact eq_of_beq (h q.index q.index.isLt)
  · rintro rfl i hi
    simp [unitless]

theorem ofResults?_eq_some_iff {results : Vector (Option Rat) 8} {d : Dimension} :
    ofResults? results = some d ↔
      ∀ q : Base, results[q.index] = some (d.exponent q) ∧ ExponentInRange (d.exponent q) := by
  simp only [ofResults?, Vector.all_eq_true]
  constructor
  · intro h q
    split at h
    case isTrue found =>
      cases h
      have range := found q.index q.index.isLt
      obtain ⟨e, he⟩ : ∃ e, results[q.index] = some e :=
        Option.isSome_iff_exists.mp (Option.isSome_of_any range)
      have he' : results[(q.index : Nat)] = some e := he
      simp_all [exponent]
    case isFalse => cases h
  · intro h
    have found (i : Nat) (hi : i < 8) : (results[i].any (ExponentInRange ·)) = true := by
      obtain ⟨q, hq⟩ := Base.exists_index ⟨i, hi⟩
      have slot : results[i] = results[q.index] := by simp [hq]
      simp only [slot, (h q).1, Option.any_some, (h q).2, decide_true]
    rw [if_pos found]
    congr 1
    apply ext_exponent
    intro q
    have result : results[(q.index : Nat)] = some (d.exponent q) := (h q).1
    simp [exponent, result]

theorem mul?_eq_some_iff {a b c : Dimension} :
    a.mul? b = some c ↔
      ∀ q, Number.Fraction.add? (a.exponent q) (b.exponent q) = some (c.exponent q) ∧
        ExponentInRange (c.exponent q) := by
  simp [mul?, ofResults?_eq_some_iff, exponent]

theorem div?_eq_some_iff {a b c : Dimension} :
    a.div? b = some c ↔
      ∀ q, Number.Fraction.sub? (a.exponent q) (b.exponent q) = some (c.exponent q) ∧
        ExponentInRange (c.exponent q) := by
  simp [div?, ofResults?_eq_some_iff, exponent]

theorem scale?_eq_some_iff {d e : Dimension} {factor : Rat} :
    d.scale? factor = some e ↔
      ∀ q, Number.Fraction.mul? (d.exponent q) factor = some (e.exponent q) ∧
        ExponentInRange (e.exponent q) := by
  simp [scale?, ofResults?_eq_some_iff, exponent]

theorem inRange_of_mul? {a b c : Dimension} (h : a.mul? b = some c) : c.InRange :=
  inRange_iff.mpr fun q => (mul?_eq_some_iff.mp h q).2

theorem inRange_of_div? {a b c : Dimension} (h : a.div? b = some c) : c.InRange :=
  inRange_iff.mpr fun q => (div?_eq_some_iff.mp h q).2

theorem inRange_of_scale? {d e : Dimension} {factor : Rat} (h : d.scale? factor = some e) :
    e.InRange :=
  inRange_iff.mpr fun q => (scale?_eq_some_iff.mp h q).2

end Dimension

end Dimensional
