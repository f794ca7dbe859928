import Dimensional.Proofs.Dynamic.Arithmetic
import Dimensional.Proofs.Handles.Request
import Dimensional.Proofs.Number.Product
import Dimensional.Proofs.Quantity.Range
import Dimensional.Proofs.Units.Canonical

/-!
Products and quotients with plain numbers.  They copy or invert the dimension without a check, and
come to the same as the checked operations on the number as a unitless quantity, which then cannot
fail.  So it does not matter whether a number is multiplied by as it is, or is first made a quantity
as operators over operands of no fixed type do it.
-/

namespace Dimensional

namespace Dimension

variable {d : Dimension}

theorem inRange_unitless : unitless.InRange := by
  decide

theorem mul?_unitless_of_inRange (range : d.InRange) : d.mul? unitless = some d := by
  rw [mul?_unitless, checked_eq_some_iff]
  exact ⟨range, rfl⟩

theorem unitless_mul?_of_inRange (range : d.InRange) : unitless.mul? d = some d := by
  rw [mul?_eq_some_iff_of_inRange inRange_unitless range]
  refine ⟨range, fun b => ?_⟩
  rw [exponent_unitless, zero_add]

theorem div?_unitless_of_inRange (range : d.InRange) : d.div? unitless = some d := by
  rw [div?_eq_some_iff_of_inRange range inRange_unitless]
  refine ⟨range, fun b => ?_⟩
  rw [exponent_unitless, sub_zero]

theorem unitless_div?_of_inRange (range : d.InRange) : unitless.div? d = some d.recip := by
  rw [div?_eq_some_iff_of_inRange inRange_unitless range]
  -- The range is symmetric, so the reciprocal needs no check.
  refine ⟨inRange_recip.mpr range, fun b => ?_⟩
  rw [exponent_recip, exponent_unitless, zero_sub]

end Dimension

/-! What a checked operation gives, two operands of no fixed type give, and two handles. -/

section Surfaces

variable {op : Quantity.Binary} {p q z : Quantity}

theorem Dynamic.Mirrors.eq_ok {result : Result} (h : Mirrors (.ok z) result) :
    result = .ok (.quantity z) := by
  cases h
  rfl

theorem Dynamic.binary_of_apply_ok {left right : Operand}
    (one : left.isQuantity = true ∨ right.isQuantity = true) (hp : left.Denotes p)
    (hq : right.Denotes q) (made : op.apply p q = .ok z) :
    binary op left right = .ok (.quantity z) := by
  have mirrored := (refinesEngine_binary op one).engine p q hp hq
  rw [made] at mirrored
  exact mirrored.eq_ok

namespace Handles.Session

variable {session : Session} {i j : Nat}

/-- The reply of a call that makes a quantity, and the session after it. -/
def making (session : Session) (q : Quantity) : Reply × Session :=
  (.status okCode (some (.quantity q)), session.keep (some q) none)

theorem run_binary_of_apply_ok (hp : session.store.Denotes i p) (hq : session.store.Denotes j q)
    (made : op.apply p q = .ok z) :
    session.run (.binary op (some i) (some j) true) = session.making z := by
  have asked := Call.Asks.binary op hp hq true
  rw [made] at asked
  exact run_of_asks_ok asked rfl

theorem run_scalar (op : Quantity.Scalar) (hq : session.store.Denotes i q) (s : Float) :
    session.run (.scalar op (some i) s true) = session.making (op.apply q s) :=
  run_of_asks_ok (.scalar op hq s true) rfl

end Handles.Session

end Surfaces

namespace Quantity

variable {q : Quantity}

theorem mul_unitless (range : q.InRange) (s : Float) :
    q.mul (unitless s) = .ok (q.mulScalar s) := by
  rw [mul, unitless, Dimension.mul?_unitless_of_inRange range]
  rfl

theorem unitless_mul (range : q.InRange) (s : Float) :
    (unitless s).mul q = .ok (q.mulScalar s) := by
  rw [mul, unitless, Dimension.unitless_mul?_of_inRange range, Number.float_mul_comm]
  rfl

theorem div_unitless (range : q.InRange) (s : Float) :
    q.div (unitless s) = .ok (q.divScalar s) := by
  rw [div, unitless, Dimension.div?_unitless_of_inRange range]
  rfl

theorem unitless_div (range : q.InRange) (s : Float) :
    (unitless s).div q = .ok (scalarDiv s q) := by
  rw [div, unitless, Dimension.unitless_div?_of_inRange range]
  rfl

/-- An operation with a number beside a checked one on two quantities: in the engine, on operands of
no fixed type, and through handles. -/
structure Agrees (op : Scalar) (checked : Binary) (q : Quantity) (s : Float)
    (left right : Quantity) : Prop where
  engine : checked.apply left right = .ok (op.apply q s)
  operands : ∀ a b : Dynamic.Operand, a.isQuantity = true ∨ b.isQuantity = true →
    a.Denotes left → b.Denotes right →
    Dynamic.binary checked a b = .ok (.quantity (op.apply q s))
  handles : ∀ (session : Handles.Session) (i : Nat), session.store.Denotes i q →
    session.run (.scalar op (some i) s true) = session.making (op.apply q s) ∧
      ∀ j k, session.store.Denotes j left → session.store.Denotes k right →
        session.run (.binary checked (some j) (some k) true) =
          session.run (.scalar op (some i) s true)

theorem agrees_of_apply {op : Scalar} {checked : Binary} {s : Float} {left right : Quantity}
    (made : checked.apply left right = .ok (op.apply q s)) : Agrees op checked q s left right where
  engine := made
  operands := fun _ _ one ha hb => Dynamic.binary_of_apply_ok one ha hb made
  handles := by
    intro session i hq
    have scalar := Handles.Session.run_scalar op hq s
    refine ⟨scalar, fun j k left right => ?_⟩
    rw [scalar]
    exact Handles.Session.run_binary_of_apply_ok left right made

theorem scalar_agrees (range : q.InRange) (s : Float) :
    Agrees .mul .mul q s q (unitless s) ∧ Agrees .mul .mul q s (unitless s) q ∧
      Agrees .div .div q s q (unitless s) ∧ Agrees .divide .div q s (unitless s) q :=
  ⟨agrees_of_apply (mul_unitless range s), agrees_of_apply (unitless_mul range s),
    agrees_of_apply (div_unitless range s), agrees_of_apply (unitless_div range s)⟩

/-- Zero with a minus sign divides a number to minus infinity, and inverts the widest exponents. -/
theorem scalar_agrees_widest :
    InRange ⟨-0.0, Units.Registry.widest⟩ ∧
      div (unitless 1.0) ⟨-0.0, Units.Registry.widest⟩ =
        .ok ⟨-1.0 / 0.0, Units.Registry.widest.recip⟩ := by
  have range : InRange ⟨-0.0, Units.Registry.widest⟩ := by
    have range : Units.Registry.widest.InRange := by decide +kernel
    exact range
  have quotient := (scalar_agrees range 1.0).2.2.2.engine
  have infinite : (1.0 : Float) / -0.0 = -1.0 / 0.0 := by decide +kernel
  refine ⟨range, quotient.trans ?_⟩
  rw [← infinite]
  rfl

end Quantity

end Dimensional
