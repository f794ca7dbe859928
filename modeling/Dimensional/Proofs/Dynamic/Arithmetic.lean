import Mathlib.Algebra.Group.Int.Defs
import Dimensional.Dynamic.Exports
import Dimensional.Dynamic.Step

/-!
Operators over operands of no fixed type do what the engine does on the quantities that the operands
stand for, in the order they are written in, whichever of the two operands answers.
-/

namespace Dimensional.Dynamic

section Operands

namespace Operand

/-- The real number that an operand is, or that its class converts it to: by a conversion to real
numbers, or by one to integers where that is the only one. -/
inductive Converts : Operand → Float → Prop
  | float (x : Float) : Converts (.float x) x
  | bool (b : Bool) : Converts (.bool b) (if b then 1.0 else 0.0)
  | int {n : Int} {x : Float} (near : intToFloat n = .ok x) : Converts (.int n) x
  | real {o : Foreign} {x : Float} (real : o.toReal? = some (.ok x)) : Converts (.object o) x
  | integer {o : Foreign} {n : Int} {x : Float} (only : o.toReal? = Option.none)
      (integer : o.toInteger? = some (.ok n)) (near : intToFloat n = .ok x) :
      Converts (.object o) x

/-- The quantity that an operand stands for beside another quantity. -/
inductive Denotes : Operand → Quantity → Prop
  | quantity (q : Quantity) : Denotes (.quantity q) q
  | number {operand : Operand} {x : Float} (converts : operand.Converts x) :
      Denotes operand (.unitless x)

variable {operand : Operand} {o : Foreign} {x : Float} {p q : Quantity}

theorem converts_of_toFloat_object (h : (object o).toFloat = .ok x) : (object o).Converts x := by
  rw [toFloat] at h
  split at h
  case h_1 outcome real => exact .real (by rw [real, h])
  case h_2 outcome only integer =>
    cases outcome with
    | ok n => exact .integer only integer h
    | error => contradiction
  case h_3 => contradiction

theorem toFloat_eq_ok_iff : operand.toFloat = .ok x ↔ operand.Converts x := by
  constructor
  · intro h
    cases operand with
    | float y =>
        obtain rfl := Except.ok.inj h
        exact .float y
    | bool b =>
        obtain rfl := Except.ok.inj h
        exact .bool b
    | int n => exact .int h
    | object o => exact converts_of_toFloat_object h
    | quantity | text | none | list => contradiction
  · intro h
    cases h with
    | float | bool => rfl
    | int near => exact near
    | real real => rw [toFloat, real]
    | integer only integer near =>
        rw [toFloat, only, integer]
        exact near

theorem isQuantity_iff : operand.isQuantity = true ↔ ∃ q, operand = .quantity q := by
  cases operand <;> simp [isQuantity]

theorem denotes_quantity_iff : (quantity p).Denotes q ↔ p = q := by
  constructor
  · intro h
    cases h with
    | quantity => rfl
    | number converts => cases converts
  · rintro rfl
    exact .quantity p

theorem denotes_iff_of_ne (other : ∀ p, operand ≠ quantity p) :
    operand.Denotes q ↔ ∃ x, operand.toFloat = .ok x ∧ Quantity.unitless x = q := by
  constructor
  · intro h
    cases h with
    | quantity => exact absurd rfl (other q)
    | number converts => exact ⟨_, toFloat_eq_ok_iff.mpr converts, rfl⟩
  · rintro ⟨x, converts, rfl⟩
    exact .number (toFloat_eq_ok_iff.mp converts)

theorem toQuantity?_eq_some_iff : operand.toQuantity? = some q ↔ operand.Denotes q := by
  by_cases isOne : operand.isQuantity = true
  · obtain ⟨p, rfl⟩ := isQuantity_iff.mp isOne
    rw [denotes_quantity_iff]
    exact Option.some_inj
  · have other (p : Quantity) : operand ≠ .quantity p := fun same =>
      isOne (isQuantity_iff.mpr ⟨p, same⟩)
    rw [denotes_iff_of_ne other, toQuantity?]
    · cases operand.toFloat <;> simp
    · exact other

end Operand

variable {operand : Operand} {q : Quantity}

theorem Operand.Denotes.toQuantity (h : operand.Denotes q) : operand.toQuantity = .ok q := by
  rw [Operand.toQuantity, Operand.toQuantity?_eq_some_iff.mpr h]

theorem Operand.toQuantity_of_foreign (foreign : ∀ q, ¬operand.Denotes q) :
    operand.toQuantity = .error (.unsupported operand.className) := by
  have missing : operand.toQuantity? = Option.none :=
    Option.eq_none_iff_forall_ne_some.mpr fun q h => foreign q (toQuantity?_eq_some_iff.mp h)
  rw [Operand.toQuantity, missing]

end Operands

section Operators

/-- The kind's name, and `Error` after it if it does not end so by itself. -/
def exceptionName (kind : Failure.Kind) : String :=
  if "Error".toList.isSuffixOf kind.name.toList then kind.name else kind.name ++ "Error"

/-- A failure of the engine as an exception. -/
structure Raises (f : Failure) (problem : Problem) : Prop where
  named : problem.className = exceptionName f.kind
  exported : ∃ doc, Export.exceptionClass problem.className baseClass doc ∈ exports
  worded : problem.message? = some f.message

theorem raises_refused (f : Failure) : Raises f (.refused f) where
  named := by
    rw [Problem.className]
    cases f.kind <;> decide
  exported :=
    ⟨kindDoc f.kind, List.mem_mergeSort.mpr <| List.mem_append_left _ <|
      List.mem_map.mpr ⟨f.kind, Failure.Kind.mem_all _, rfl⟩⟩
  worded := rfl

/-- An outcome of the engine, and the same for operands of no fixed type. -/
inductive Mirrors : Except Failure Quantity → Result → Prop
  | made (q : Quantity) : Mirrors (.ok q) (.ok (.quantity q))
  | raised {f : Failure} {problem : Problem} (h : Raises f problem) :
      Mirrors (.error f) (.error problem)

theorem mirrors_refusable (outcome : Except Failure Quantity) :
    Mirrors outcome (refusable .quantity outcome) := by
  cases outcome with
  | ok q => exact .made q
  | error f => exact .raised (raises_refused f)

structure RefinesEngine (op : Quantity.Binary) (left right : Operand) (result : Result) : Prop where
  engine : ∀ p q, left.Denotes p → right.Denotes q → Mirrors (op.apply p q) result
  foreign : ∀ operand, operand = left ∨ operand = right → (∀ q, ¬operand.Denotes q) →
    ∃ problem, result = .error problem ∧ problem.className = "TypeError" ∧
      problem.message? = some ("unsupported operand type for DimensionalVariable: <class '" ++
        operand.className ++ "'>")

variable (op : Quantity.Binary) (self : Quantity) (other : Operand)

theorem refinesEngine_forward :
    RefinesEngine op (.quantity self) other (forward op self other) where
  engine := by
    intro p q left right
    obtain rfl := Operand.denotes_quantity_iff.mp left
    rw [forward, right.toQuantity]
    exact mirrors_refusable _
  foreign := by
    rintro operand (rfl | rfl) foreign
    · exact absurd (.quantity self) (foreign self)
    · rw [forward, Operand.toQuantity_of_foreign foreign]
      exact ⟨_, rfl, rfl, rfl⟩

theorem refinesEngine_reflected :
    RefinesEngine op other (.quantity self) (reflected op self other) where
  engine := by
    intro p q left right
    obtain rfl := Operand.denotes_quantity_iff.mp right
    rw [reflected, left.toQuantity]
    exact mirrors_refusable _
  foreign := by
    rintro operand (rfl | rfl) foreign
    · rw [reflected, Operand.toQuantity_of_foreign foreign]
      exact ⟨_, rfl, rfl, rfl⟩
    · exact absurd (.quantity self) (foreign self)

theorem refinesEngine_binary {left right : Operand}
    (one : left.isQuantity = true ∨ right.isQuantity = true) :
    RefinesEngine op left right (binary op left right) := by
  by_cases first : left.isQuantity = true
  · obtain ⟨p, rfl⟩ := Operand.isQuantity_iff.mp first
    exact refinesEngine_forward op p right
  · obtain ⟨q, rfl⟩ := Operand.isQuantity_iff.mp (one.resolve_left first)
    have asked : binary op left (.quantity q) = reflected op q left := by
      cases left with
      | quantity => exact absurd rfl first
      | _ => rfl
    rw [asked]
    exact refinesEngine_reflected op q left

end Operators

section Runs

variable (store : Store) (steps before : List (Step Argument)) (step : Step Argument)

/-- One half, of a class that converts to real numbers. -/
def half : Foreign :=
  ⟨"Ratio", some (.ok 0.5), none, none⟩

end Runs

end Dimensional.Dynamic
