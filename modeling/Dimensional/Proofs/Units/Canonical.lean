import Dimensional.Proofs.Dimension.Canonical
import Dimensional.Proofs.Number.Digits
import Dimensional.Proofs.Units.Reading
import Dimensional.Units.Standard

/-!
The canonical text of a dimension is read back as that dimension with scale one.  The text is that
of a tree without white space, which multiplies the numerators from left to right and then divides
by each denominator; on the way the exponents of one base after the other are filled in.
-/

namespace Dimensional

/-! Every power of one is one. -/

namespace Number

theorem one_mul_one : (1.0 : Float) * 1.0 = 1.0 := by
  decide

theorem one_div_one : (1.0 : Float) / 1.0 = 1.0 := by
  decide +kernel

theorem repeatedSquare_one (count : Nat) : repeatedSquare 1.0 1.0 count = 1.0 := by
  induction count using Nat.strongRecOn with
  | ind count ih =>
      rw [repeatedSquare, one_mul_one, ite_self]
      split
      · rfl
      · exact ih (count / 2) (by omega)

theorem intPower_one (n : Int) : intPower 1.0 n = 1.0 := by
  simp only [intPower, repeatedSquare_one, one_div_one, ite_self]

theorem realPower_one (exponent : Float) : realPower 1.0 exponent = 1.0 :=
  if_pos (by decide +kernel)

end Number

namespace Units

namespace Grammar

open Dimension Number

/-! The trees that canonical texts are written from. -/

def noBlanks : Blanks :=
  ⟨[], by simp⟩

@[simp] theorem text_noBlanks : noBlanks.text = [] := rfl

def Digits.ofNat (n : Nat) : Digits :=
  ⟨⟨natText n, fun _ => isDigit_of_mem_natText⟩, natText_ne_nil n⟩

@[simp] theorem Digits.text_ofNat (n : Nat) : (Digits.ofNat n).text = natText n := rfl

@[simp] theorem Digits.value_ofNat (n : Nat) : (Digits.ofNat n).value = n :=
  natOfDigits_natText n

def Integer.ofInt (n : Int) : Integer :=
  ⟨if n < 0 then .minus else .absent, .ofNat n.natAbs⟩

@[simp] theorem Integer.text_ofInt (n : Int) : (Integer.ofInt n).text = intText n := by
  rw [Integer.text, Integer.ofInt, intText]
  split <;> rfl

@[simp] theorem Integer.value_ofInt (n : Int) : (Integer.ofInt n).value = n := by
  simp only [Integer.value, Integer.ofInt, Digits.value_ofNat]
  by_cases negative : n < 0
  · simp only [if_pos negative]
    omega
  · simp only [if_neg negative]
    omega

def Power.ofRat (e : Rat) : Power :=
  if e = 1 then .absent
  else if e.den = 1 then .raised noBlanks (.bare noBlanks (.ofInt e.num))
  else
    .raised noBlanks
      (.fraction noBlanks noBlanks (.ofInt e.num) noBlanks noBlanks (.ofNat e.den) noBlanks)

theorem Power.append_text_ofRat (symbol : List Char) (e : Rat) :
    symbol ++ (Power.ofRat e).text = term symbol e := by
  rw [Power.ofRat, term]
  split
  case isTrue => exact List.append_nil symbol
  case isFalse =>
    split
    · simp [Power.text, Exponent.text]
    · simp [Power.text, Exponent.text]

theorem Power.admissible_ofRat {e : Rat} (range : ExponentInRange e) :
    (Power.ofRat e).Admissible := by
  have fits : (Integer.ofInt e.num).digits.Admissible := by
    rw [Integer.ofInt, Digits.Admissible, Digits.value_ofNat]
    exact range.1
  rw [Power.ofRat]
  split
  case isTrue => trivial
  case isFalse =>
    split
    case isTrue => exact fits
    case isFalse =>
      refine ⟨fits, ?_, ?_⟩
      · rw [Digits.Admissible, Digits.value_ofNat]
        exact range.2
      · rw [Digits.value_ofNat]
        exact e.den_nz

theorem Power.applied?_ofRat {e : Rat} (other : e ≠ 1) (m : Measure) :
    (Power.ofRat e).applied? m = m.power? e := by
  rw [Power.ofRat, if_neg other]
  split
  case isTrue whole =>
    rw [Power.applied?, Exponent.value, Integer.value_ofInt, (Rat.den_eq_one_iff e).mp whole]
  case isFalse =>
    rw [Power.applied?, Exponent.value, Integer.value_ofInt, Digits.value_ofNat, Rat.mkRat_self]

theorem Power.applied?_ofRat_base {e : Rat} (range : ExponentInRange e) (q : Base) :
    (Power.ofRat e).applied? ⟨base q, 1.0⟩ = some ⟨basePower q e, 1.0⟩ := by
  by_cases one : e = 1
  · subst one
    rw [Power.ofRat, if_pos rfl, basePower_one]
    rfl
  · rw [Power.applied?_ofRat one, Measure.power?, scale?_base range]
    simp only [Option.map_some, Measure.scalePower, intPower_one, realPower_one, ite_self]

def Name.ofBase (q : Base) : Name :=
  ⟨⟨q.symbol.toList, List.all_eq_true.mp (by cases q <;> decide +kernel)⟩, by cases q <;> decide⟩

def Factor.ofBase (q : Base) (e : Rat) : Factor :=
  .symbol noBlanks (.ofBase q) (.spaced (.ofRat e))

theorem Factor.text_ofBase (q : Base) (e : Rat) :
    (Factor.ofBase q e).text = term q.symbol.toList e :=
  Power.append_text_ofRat q.symbol.toList e

theorem resolve_base (q : Base) : Registry.standard.resolve q.symbol = some ⟨base q, 1.0⟩ := by
  cases q <;> decide +kernel

theorem Factor.denotes_ofBase {e : Rat} (range : ExponentInRange e) (q : Base) (depth : Nat) :
    (Factor.ofBase q e).Denotes Registry.standard depth ⟨basePower q e, 1.0⟩ := by
  refine Factor.denotes_symbol.mpr ⟨Power.admissible_ofRat range, ⟨base q, 1.0⟩, ?_, ?_⟩
  · rw [Name.ofBase, String.ofList_toList]
    exact resolve_base q
  · exact Power.applied?_ofRat_base range q

/-- One more base above the line. -/
def Expression.timesBase (d : Dimension) (tree : Expression) (q : Base) : Expression :=
  .times tree noBlanks (.factor (.ofBase q (d.exponent q)))

/-- One more base below the line. -/
def Expression.overBase (d : Dimension) (tree : Expression) (q : Base) : Expression :=
  .over tree noBlanks (.factor (.ofBase q (-d.exponent q)))

/-- The factors above the line, or `1`. -/
def Expression.lead (d : Dimension) : Expression :=
  match d.positives with
  | [] => .group (.factor (.one noBlanks .absent))
  | q :: qs => qs.foldl (timesBase d) (.group (.factor (.ofBase q (d.exponent q))))

def Expression.canonical (d : Dimension) : Expression :=
  d.negatives.foldl (overBase d) (lead d)

theorem Expression.text_foldl {join : Expression → Base → Expression} {mark : Base → List Char}
    (each : ∀ tree q, (join tree q).text = tree.text ++ mark q) (qs : List Base)
    (tree : Expression) : (qs.foldl join tree).text = tree.text ++ qs.flatMap mark := by
  induction qs generalizing tree with
  | nil => exact (List.append_nil tree.text).symm
  | cons q qs ih => rw [List.foldl_cons, ih, each, List.flatMap_cons, List.append_assoc]

/-- Joining one new base after the other fills in their exponents. -/
theorem Expression.denotes_foldl {d : Dimension} {depth : Nat}
    {join : Expression → Base → Expression}
    (each : ∀ tree qs q, q ∉ qs →
      tree.Denotes Registry.standard depth ⟨d.restrict qs, 1.0⟩ →
        (join tree q).Denotes Registry.standard depth ⟨d.restrict (qs ++ [q]), 1.0⟩)
    (qs : List Base) (tree : Expression) (before : List Base) (fresh : (before ++ qs).Nodup)
    (denotes : tree.Denotes Registry.standard depth ⟨d.restrict before, 1.0⟩) :
    (qs.foldl join tree).Denotes Registry.standard depth ⟨d.restrict (before ++ qs), 1.0⟩ := by
  -- The tree built so far has the exponents of `before` filled in, and no base comes twice.
  induction qs generalizing tree before with
  | nil =>
      rw [List.append_nil]
      exact denotes
  | cons q qs ih =>
      rw [List.append_cons] at fresh ⊢
      have new : q ∉ before := by
        have front := (List.nodup_append'.mp fresh).1
        simpa using (List.nodup_append'.mp front).2.2
      exact ih (join tree q) (before ++ [q]) fresh (each tree before q new denotes)

theorem Expression.text_timesBase (d : Dimension) (tree : Expression) (q : Base) :
    (timesBase d tree q).text = tree.text ++ '*' :: term q.symbol.toList (d.exponent q) := by
  simp [timesBase, Expression.text, Group.text, Factor.text_ofBase]

theorem Expression.text_overBase (d : Dimension) (tree : Expression) (q : Base) :
    (overBase d tree q).text = tree.text ++ '/' :: term q.symbol.toList (-d.exponent q) := by
  simp [overBase, Expression.text, Group.text, Factor.text_ofBase]

theorem intercalate_cons (mark : Char) (first : List Char) (others : List (List Char)) :
    [mark].intercalate (first :: others) = first ++ others.flatMap (mark :: ·) := by
  induction others generalizing first with
  | nil => simp
  | cons second others ih =>
      rw [List.intercalate_cons_cons, ih, List.flatMap_cons, List.append_assoc,
        List.singleton_append, List.cons_append]

theorem Expression.text_lead {d : Dimension} (nonempty : d.positives ++ d.negatives ≠ []) :
    (lead d).text = d.leadText := by
  rw [leadText, numerators_eq, denominators_eq, lead]
  cases shape : d.positives with
  | nil =>
      rw [shape, List.nil_append] at nonempty
      simp [nonempty, Expression.text, Group.text, Factor.text, Power.text]
  | cons q qs =>
      simp only [List.map_cons, List.isEmpty_cons, Bool.false_eq_true, if_false,
        intercalate_cons, text_foldl (text_timesBase d), List.flatMap_map]
      rw [Expression.text, Group.text, Factor.text_ofBase]

theorem Expression.text_canonical {d : Dimension} (nonempty : d.positives ++ d.negatives ≠ []) :
    (canonical d).text = d.unitText := by
  rw [canonical, text_foldl (text_overBase d), text_lead nonempty, unitText, denominators_eq,
    List.flatMap_map]

variable {d : Dimension} {depth : Nat}

theorem Expression.denotes_timesBase (range : d.InRange) (tree : Expression) (qs : List Base)
    (q : Base) (fresh : q ∉ qs)
    (denotes : tree.Denotes Registry.standard depth ⟨d.restrict qs, 1.0⟩) :
    (timesBase d tree q).Denotes Registry.standard depth ⟨d.restrict (qs ++ [q]), 1.0⟩ := by
  have factor := Factor.denotes_ofBase (inRange_iff.mp range q) q depth
  refine denotes_times.mpr ⟨_, _, denotes, Group.denotes_factor.mpr factor, ?_⟩
  rw [Measure.mul?, restrict_mul? range fresh, one_mul_one]
  rfl

theorem Expression.denotes_overBase (range : d.InRange) (tree : Expression) (qs : List Base)
    (q : Base) (fresh : q ∉ qs)
    (denotes : tree.Denotes Registry.standard depth ⟨d.restrict qs, 1.0⟩) :
    (overBase d tree q).Denotes Registry.standard depth ⟨d.restrict (qs ++ [q]), 1.0⟩ := by
  have factor := Factor.denotes_ofBase (exponentInRange_neg.mpr (inRange_iff.mp range q)) q depth
  refine denotes_over.mpr ⟨_, _, denotes, Group.denotes_factor.mpr factor, ?_⟩
  rw [Measure.div?, restrict_div? range fresh, one_div_one]
  rfl

theorem Expression.denotes_lead (range : d.InRange) :
    (lead d).Denotes Registry.standard depth ⟨d.restrict d.positives, 1.0⟩ := by
  have fresh := (List.nodup_append'.mp (nodup_positives_negatives d)).1
  rw [lead]
  cases shape : d.positives with
  | nil =>
      have one : (Factor.one noBlanks .absent).Denotes Registry.standard depth .one :=
        Factor.denotes_one.mpr ⟨trivial, rfl⟩
      rw [restrict_nil]
      exact Expression.denotes_group.mpr (Group.denotes_factor.mpr one)
  | cons q qs =>
      rw [shape, ← List.singleton_append] at fresh
      refine denotes_foldl (denotes_timesBase range) qs _ [q] fresh ?_
      rw [restrict_singleton]
      exact Factor.denotes_ofBase (inRange_iff.mp range q) q depth

theorem Expression.denotes_canonical (range : d.InRange) :
    (canonical d).Denotes Registry.standard depth ⟨d, 1.0⟩ := by
  have above : (lead d).Denotes Registry.standard depth ⟨d.restrict d.positives, 1.0⟩ :=
    denotes_lead range
  have filled := denotes_foldl (denotes_overBase range) d.negatives (lead d) d.positives
    (nodup_positives_negatives d) above
  rw [restrict_positives_negatives] at filled
  exact filled

end Grammar

namespace Registry

open Dimension Grammar

theorem read_unitText {d : Dimension} (range : d.InRange) :
    standard.read d.unitText = .ok ⟨d, 1.0⟩ := by
  by_cases empty : d.positives ++ d.negatives = []
  -- Only the unitless dimension has no tree: its text is empty.
  · have unit : d = unitless := by
      rw [← restrict_positives_negatives d, empty, restrict_nil]
    have blank : d.unitText = [] := by
      rw [unit]
      decide +kernel
    rw [blank, unit]
    exact read_blanks (by simp)
  · have read := read_append (Expression.denotes_canonical range) noBlanks
    rw [text_noBlanks, List.append_nil, Expression.text_canonical empty] at read
    exact read

theorem parse_unitText {d : Dimension} (range : d.InRange) :
    standard.parse (String.ofList d.unitText) = .ok ⟨d, 1.0⟩ ∧
      ∀ e : Dimension, e.InRange → e.unitText = d.unitText → e = d := by
  constructor
  · rw [parse_eq_ok_iff_read, String.toList_ofList]
    exact read_unitText range
  · intro e rangeE same
    have read := read_unitText rangeE
    rw [same, read_unitText range] at read
    cases read
    rfl

/-- The widest exponents on both sides of the line. -/
def widest : Dimension :=
  ⟨#v[2147483647 / 2147483646, -2147483647, 1, 0, -1 / 2147483647, 0, 0, 0]⟩

theorem parse_unitText_widest :
    widest.InRange ∧ standard.parse (String.ofList widest.unitText) = .ok ⟨widest, 1.0⟩ ∧
      ∀ e : Dimension, e.InRange → e.unitText = widest.unitText → e = widest := by
  have range : widest.InRange := by decide +kernel
  exact ⟨range, parse_unitText range⟩

end Registry

end Units

end Dimensional
