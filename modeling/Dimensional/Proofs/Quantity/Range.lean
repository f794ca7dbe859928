import Dimensional.Proofs.Dimension.Made
import Dimensional.Quantity.Operations

/-!
Operations on quantities whose exponents are in range make such quantities only.
-/

namespace Dimensional.Quantity

def InRange (q : Quantity) : Prop :=
  q.dimension.InRange

/-- A quantity that comes of an operation is in range; a refusal is no quantity. -/
def MakesInRange (outcome : Except Failure Quantity) : Prop :=
  ∀ q, outcome = .ok q → q.InRange

theorem makesInRange_ok {q : Quantity} (range : q.InRange) : MakesInRange (.ok q) := by
  rintro _ ⟨⟩
  exact range

theorem makesInRange_error (f : Failure) : MakesInRange (.error f) := by
  rintro _ ⟨⟩

theorem makesInRange_bind {α : Type} {f : α → Except Failure Quantity}
    (gate : Except Failure α) (h : ∀ a, MakesInRange (f a)) : MakesInRange (gate >>= f) := by
  cases gate with
  | error failure => exact makesInRange_error failure
  | ok a => exact h a

theorem inRange_unitless (x : Float) : (unitless x).InRange := by
  have range : Dimension.unitless.InRange := by decide
  exact range

theorem inRange_angle (x : Float) : InRange ⟨x, .angle⟩ := by
  have range : Dimension.angle.InRange := by decide
  exact range

theorem makesInRange_ofUnit (x : Float) (unit : String) : MakesInRange (ofUnit x unit) := by
  rw [ofUnit]
  cases parsed : Units.Registry.standard.parse unit with
  | error f => exact makesInRange_error f
  | ok m => exact makesInRange_ok (Units.Registry.inRange_standard.of_parse parsed)

theorem makesInRange_inRange (op : Operation) (operand : Dimension) (x : Float)
    {result : Option Dimension} (range : ∀ d, result = some d → d.InRange) :
    MakesInRange (inRange op operand x result) := by
  cases result with
  | none => exact makesInRange_error _
  | some d => exact makesInRange_ok (range d rfl)

variable {p q : Quantity}

theorem makesInRange_binary (op : Binary) (range : p.InRange) : MakesInRange (op.apply p q) := by
  cases op with
  | add => exact makesInRange_bind (sameDimension p q) fun _ => makesInRange_ok range
  | sub => exact makesInRange_bind (sameDimension p q) fun _ => makesInRange_ok range
  | mul => exact makesInRange_inRange _ _ _ fun _ => Dimension.inRange_of_mul?
  | div => exact makesInRange_inRange _ _ _ fun _ => Dimension.inRange_of_div?

theorem inRange_scalar (op : Scalar) (s : Float) (range : q.InRange) : (op.apply q s).InRange := by
  cases op with
  | mul => exact range
  | div => exact range
  | divide => exact Dimension.inRange_recip.mpr range

theorem makesInRange_intPower (n : Int) : MakesInRange (q.intPower n) :=
  makesInRange_inRange _ _ _ fun _ => Dimension.inRange_of_scale?

theorem makesInRange_realPower (exponent : Float) (range : q.InRange) :
    MakesInRange (q.realPower exponent) := by
  simp only [realPower]
  split
  case isTrue => exact makesInRange_ok range
  case isFalse =>
    split
    case h_1 => exact makesInRange_error _
    case h_2 r _ =>
      split
      case isTrue => exact makesInRange_intPower r.num
      case isFalse =>
        split
        case h_1 => exact makesInRange_error _
        case h_2 d scaled =>
          split
          case isTrue => exact makesInRange_ok (Dimension.inRange_of_scale? scaled)
          case isFalse => exact makesInRange_error _

theorem makesInRange_sqrt : MakesInRange q.sqrt := by
  simp only [sqrt]
  split
  case h_1 => exact makesInRange_error _
  case h_2 d half =>
    have scaled := (Option.filter_eq_some_iff.mp half).1
    split
    case isTrue => exact makesInRange_error _
    case isFalse => exact makesInRange_ok (Dimension.inRange_of_scale? scaled)

theorem makesInRange_logarithm (op : Operation) (f : Float → Float) :
    MakesInRange (q.logarithm op f) := by
  refine makesInRange_bind (requireUnitless op q) fun _ => ?_
  split
  case isTrue => exact makesInRange_ok (inRange_unitless _)
  case isFalse => exact makesInRange_error _

theorem makesInRange_circular (op : Operation) (f : Float → Float) :
    MakesInRange (q.circular op f) :=
  makesInRange_bind (requireAngleOrUnitless op q) fun _ => makesInRange_ok (inRange_unitless _)

theorem makesInRange_ofArc (op : Operation) (f : Float → Float) (x : Float) :
    MakesInRange (arc op f x) := by
  rw [arc]
  split
  case isTrue => exact makesInRange_ok (inRange_angle _)
  case isFalse => exact makesInRange_error _

theorem makesInRange_arc (op : Arc) (x : Float) : MakesInRange (op.apply x) := by
  cases op with
  | asin => exact makesInRange_ofArc .asin Float.asin x
  | acos => exact makesInRange_ofArc .acos Float.acos x
  | atan => exact makesInRange_ok (inRange_angle _)

theorem makesInRange_unary (op : Unary) (range : q.InRange) : MakesInRange (op.apply q) := by
  cases op with
  | sqrt => exact makesInRange_sqrt
  | neg => exact makesInRange_ok range
  | abs => exact makesInRange_ok range
  | ln => exact makesInRange_logarithm .ln Float.log
  | log2 => exact makesInRange_logarithm .log2 Float.log2
  | log10 => exact makesInRange_logarithm .log10 Float.log10
  | sin => exact makesInRange_circular .sin Float.sin
  | cos => exact makesInRange_circular .cos Float.cos
  | tan => exact makesInRange_circular .tan Float.tan
  | asin =>
      exact makesInRange_bind (requireUnitless .asin q) fun _ => makesInRange_arc .asin q.value
  | acos =>
      exact makesInRange_bind (requireUnitless .acos q) fun _ => makesInRange_arc .acos q.value
  | atan =>
      exact makesInRange_bind (requireUnitless .atan q) fun _ => makesInRange_arc .atan q.value

end Dimensional.Quantity
