import Dimensional.Quantity.Program
import Mathlib.Data.List.Forall2

/-!
Values never influence dimensions.  Where two runs start from slots of the same dimensions and take
the same steps, they make the same dimensions and refuse the same steps for the same reasons, until
a value lies outside the domain of an operation in one of them.
-/

namespace Dimensional.Quantity

/-! One operation on operands that differ in their values only. -/

section Outcomes

variable {α β : Type}

/-- A refusal is the same on both sides, unless it is for a value. -/
inductive Outcomes (same : α → α → Prop) : Except Failure α → Except Failure α → Prop
  | ok {a b : α} (h : same a b) : Outcomes same (.ok a) (.ok b)
  | refused (f : Failure) : Outcomes same (.error f) (.error f)
  | left (op : Operation) (x : Float) (b : α) : Outcomes same (.error (.domain op x)) (.ok b)
  | right (a : α) (op : Operation) (y : Float) : Outcomes same (.ok a) (.error (.domain op y))
  | both (op : Operation) (x y : Float) :
      Outcomes same (.error (.domain op x)) (.error (.domain op y))

variable {same : α → α → Prop}

theorem Outcomes.bind {f g : β → Except Failure α} (gate : Except Failure β)
    (h : ∀ b, Outcomes same (f b) (g b)) : Outcomes same (gate >>= f) (gate >>= g) := by
  cases gate with
  | error failure => exact .refused failure
  | ok b => exact h b

theorem Outcomes.ofDomain {P Q : Prop} [Decidable P] [Decidable Q] {a b : α} (op : Operation)
    (x y : Float) (h : same a b) :
    Outcomes same (if P then .ok a else .error (.domain op x))
      (if Q then .ok b else .error (.domain op y)) := by
  by_cases hP : P
  · by_cases hQ : Q
    · rw [if_pos hP, if_pos hQ]
      exact .ok h
    · rw [if_pos hP, if_neg hQ]
      exact .right a op y
  · by_cases hQ : Q
    · rw [if_neg hP, if_pos hQ]
      exact .left op x b
    · rw [if_neg hP, if_neg hQ]
      exact .both op x y

end Outcomes

def SameDimension (p q : Quantity) : Prop :=
  p.dimension = q.dimension

theorem outcomes_ofUnit (x y : Float) (unit : String) :
    Outcomes SameDimension (ofUnit x unit) (ofUnit y unit) :=
  .bind _ fun _ => .ok rfl

theorem outcomes_inRange (op : Operation) (operand : Dimension) (x y : Float)
    (result : Option Dimension) :
    Outcomes SameDimension (inRange op operand x result) (inRange op operand y result) := by
  cases result with
  | none => exact .refused _
  | some d => exact .ok rfl

variable (d e : Dimension) (x y u v : Float)

theorem outcomes_binary (op : Binary) :
    Outcomes SameDimension (op.apply ⟨x, d⟩ ⟨u, e⟩) (op.apply ⟨y, d⟩ ⟨v, e⟩) := by
  cases op with
  | add => exact .bind (sameDimension ⟨x, d⟩ ⟨u, e⟩) fun _ => .ok rfl
  | sub => exact .bind (sameDimension ⟨x, d⟩ ⟨u, e⟩) fun _ => .ok rfl
  | mul => exact outcomes_inRange .mul d _ _ _
  | div => exact outcomes_inRange .div d _ _ _

theorem sameDimension_scalar (op : Scalar) :
    SameDimension (op.apply ⟨x, d⟩ u) (op.apply ⟨y, d⟩ v) := by
  cases op <;> rfl

theorem outcomes_intPower (n : Int) :
    Outcomes SameDimension (intPower ⟨x, d⟩ n) (intPower ⟨y, d⟩ n) :=
  outcomes_inRange .powi d _ _ _

theorem outcomes_realPower (exponent : Float) :
    Outcomes SameDimension (realPower ⟨x, d⟩ exponent) (realPower ⟨y, d⟩ exponent) := by
  -- Every test is on the dimension or the exponent, so both sides take the same branch.
  by_cases plain : d.isUnitless = true
  · simp only [realPower, isUnitless, if_pos plain]
    exact .ok rfl
  · simp only [realPower, isUnitless, if_neg plain]
    cases Number.smallFraction? exponent with
    | none => exact .refused _
    | some r =>
        by_cases whole : r.den = 1
        · simp only [if_pos whole]
          exact outcomes_intPower d x y r.num
        · simp only [if_neg whole]
          cases d.scale? r with
          | none => exact .refused _
          | some scaled =>
              by_cases integral : scaled.isIntegral = true
              · simp only [if_pos integral]
                exact .ok rfl
              · simp only [if_neg integral]
                exact .refused _

theorem outcomes_sqrt : Outcomes SameDimension (sqrt ⟨x, d⟩) (sqrt ⟨y, d⟩) := by
  simp only [sqrt]
  cases (d.scale? (1 / 2)).filter (·.isIntegral) with
  | none => exact .refused _
  | some half =>
      simp only [← ite_not (_ < _)]
      exact .ofDomain .sqrt x y rfl

theorem outcomes_logarithm (op : Operation) (f : Float → Float) :
    Outcomes SameDimension (logarithm op f ⟨x, d⟩) (logarithm op f ⟨y, d⟩) :=
  .bind (requireUnitless op ⟨x, d⟩) fun _ => .ofDomain op x y rfl

theorem outcomes_circular (op : Operation) (f : Float → Float) :
    Outcomes SameDimension (circular op f ⟨x, d⟩) (circular op f ⟨y, d⟩) :=
  .bind (requireAngleOrUnitless op ⟨x, d⟩) fun _ => .ok rfl

theorem outcomes_arc (op : Arc) : Outcomes SameDimension (op.apply x) (op.apply y) := by
  cases op with
  | asin => exact .ofDomain .asin x y rfl
  | acos => exact .ofDomain .acos x y rfl
  | atan => exact .ok rfl

theorem outcomes_unary (op : Unary) :
    Outcomes SameDimension (op.apply ⟨x, d⟩) (op.apply ⟨y, d⟩) := by
  cases op with
  | sqrt => exact outcomes_sqrt d x y
  | neg => exact .ok rfl
  | abs => exact .ok rfl
  | ln => exact outcomes_logarithm d x y .ln Float.log
  | log2 => exact outcomes_logarithm d x y .log2 Float.log2
  | log10 => exact outcomes_logarithm d x y .log10 Float.log10
  | sin => exact outcomes_circular d x y .sin Float.sin
  | cos => exact outcomes_circular d x y .cos Float.cos
  | tan => exact outcomes_circular d x y .tan Float.tan
  | asin => exact .bind (requireUnitless .asin ⟨x, d⟩) fun _ => outcomes_arc x y .asin
  | acos => exact .bind (requireUnitless .acos ⟨x, d⟩) fun _ => outcomes_arc x y .acos
  | atan => exact .bind (requireUnitless .atan ⟨x, d⟩) fun _ => .ok rfl

theorem outcomes_valueIn (unit : String) :
    Outcomes (fun _ _ => True) (valueIn ⟨x, d⟩ unit) (valueIn ⟨y, d⟩ unit) := by
  refine .bind _ fun m => ?_
  by_cases fits : m.dimension = d
  · simp only [if_pos fits]
    exact .ok trivial
  · simp only [if_neg fits]
    exact .refused _

theorem outcomes_compare :
    Outcomes (fun _ _ => True) (compare ⟨x, d⟩ ⟨u, e⟩) (compare ⟨y, d⟩ ⟨v, e⟩) :=
  .bind (sameDimension ⟨x, d⟩ ⟨u, e⟩) fun _ => .ok trivial

theorem outcomes_test (c : Comparison) :
    Outcomes (fun _ _ => True) (test c ⟨x, d⟩ ⟨u, e⟩) (test c ⟨y, d⟩ ⟨v, e⟩) :=
  .bind (sameDimension ⟨x, d⟩ ⟨u, e⟩) fun _ => .ok trivial

/-! One step on slots that differ in their values only. -/

/-- The same step, but for the numbers that it brings along as values. -/
inductive Step.SameButValues : Step → Step → Prop
  | ofUnit (x y : Float) (unit : String) : SameButValues (.ofUnit x unit) (.ofUnit y unit)
  | ofBase (x y : Float) (d : Dimension) : SameButValues (.ofBase x d) (.ofBase y d)
  | scalar (op : Scalar) (a : Nat) (x y : Float) :
      SameButValues (.scalar op a x) (.scalar op a y)
  | arc (op : Arc) (x y : Float) : SameButValues (.arc op x) (.arc op y)
  | refl (step : Step) : SameButValues step step

inductive Answer.SameButValues : Answer → Answer → Prop
  | quantity {p q : Quantity} (h : SameDimension p q) : SameButValues (.quantity p) (.quantity q)
  | number (x y : Float) : SameButValues (.number x) (.number y)
  | ordering (a b : Option Ordering) : SameButValues (.ordering a) (.ordering b)
  | truth (a b : Bool) : SameButValues (.truth a) (.truth b)
  | text (a b : String) : SameButValues (.text a) (.text b)

/-- A step that stops one of two runs stops the other in the same way, unless it does so because a
value lies outside the domain of an operation; then the other run has an answer or stops for this
reason too. -/
inductive Answer.Alike : Except Stop Answer → Except Stop Answer → Prop
  | answered {a b : Answer} (h : a.SameButValues b) : Alike (.ok a) (.ok b)
  | stopped (stop : Stop) : Alike (.error stop) (.error stop)
  | left (op : Operation) (x : Float) (b : Answer) :
      Alike (.error (.failed (.domain op x))) (.ok b)
  | right (a : Answer) (op : Operation) (y : Float) :
      Alike (.ok a) (.error (.failed (.domain op y)))
  | both (op : Operation) (x y : Float) :
      Alike (.error (.failed (.domain op x))) (.error (.failed (.domain op y)))

def Answer.isOutsideDomain : Except Stop Answer → Bool
  | .error (.failed (.domain _ _)) => true
  | _ => false

def Store.dimensions (store : Store) : Array (Option Dimension) :=
  store.map (·.map Quantity.dimension)

theorem Store.dimensions_push (store : Store) (q : Option Quantity) :
    dimensions (store.push q) = (dimensions store).push (q.map Quantity.dimension) := by
  simp [dimensions]

theorem alike_settled {α : Type} {same : α → α → Prop} {a b : Except Failure α}
    {answer : α → Answer} (outcomes : Outcomes same a b)
    (h : ∀ {a b}, same a b → (answer a).SameButValues (answer b)) :
    Answer.Alike (settled answer a) (settled answer b) := by
  cases outcomes with
  | ok same => exact .answered (h same)
  | refused f => exact .stopped (.failed f)
  | left op x b => exact .left op x (answer b)
  | right a op y => exact .right (answer a) op y
  | both op x y => exact .both op x y

theorem Answer.Alike.kept_eq {a b : Except Stop Answer} (alike : Alike a b)
    (inside : isOutsideDomain a = false ∧ isOutsideDomain b = false) :
    (kept a).map Quantity.dimension = (kept b).map Quantity.dimension := by
  cases alike with
  | answered same =>
      cases same with
      | quantity h => exact congrArg some h
      | number => rfl
      | ordering => rfl
      | truth => rfl
      | text => rfl
  | stopped stop => rfl
  | left => exact absurd inside.1 (by simp [isOutsideDomain])
  | right => exact absurd inside.2 (by simp [isOutsideDomain])
  | both => exact absurd inside.1 (by simp [isOutsideDomain])

section Steps

variable {s t : Store}

/-- A slot holds something in both stores or in neither. -/
theorem Store.get_cases (slots : dimensions s = dimensions t) (i : Nat) :
    (s.get i = .error .noValue ∧ t.get i = .error .noValue) ∨
      ∃ x y d, s.get i = .ok ⟨x, d⟩ ∧ t.get i = .ok ⟨y, d⟩ := by
  have slot : s[i]?.map (·.map Quantity.dimension) = t[i]?.map (·.map Quantity.dimension) := by
    have at_i := congrArg (·[i]?) slots
    simpa [dimensions] using at_i
  unfold get
  rcases hs : s[i]? with _ | _ | ⟨x, d⟩
  · rcases ht : t[i]? with _ | q
    · exact .inl ⟨rfl, rfl⟩
    · simp [hs, ht] at slot
  · rcases ht : t[i]? with _ | _ | q
    · simp [hs, ht] at slot
    · exact .inl ⟨rfl, rfl⟩
    · simp [hs, ht] at slot
  · rcases ht : t[i]? with _ | _ | ⟨y, e⟩
    · simp [hs, ht] at slot
    · simp [hs, ht] at slot
    · have same : d = e := by simpa [hs, ht] using slot
      subst same
      exact .inr ⟨x, y, d, rfl, rfl⟩

theorem alike_bind_get (slots : s.dimensions = t.dimensions) (i : Nat)
    {f g : Quantity → Except Stop Answer}
    (h : ∀ x y d, Answer.Alike (f ⟨x, d⟩) (g ⟨y, d⟩)) :
    Answer.Alike (s.get i >>= f) (t.get i >>= g) := by
  obtain ⟨noneS, noneT⟩ | ⟨x, y, d, foundS, foundT⟩ := Store.get_cases slots i
  · rw [noneS, noneT]
    exact .stopped .noValue
  · rw [foundS, foundT]
    exact h x y d

theorem Step.SameButValues.alike_run {a b : Step} (same : a.SameButValues b)
    (slots : s.dimensions = t.dimensions) : Answer.Alike (a.run s) (b.run t) := by
  cases same with
  | ofUnit x y unit => exact alike_settled (outcomes_ofUnit x y unit) .quantity
  | ofBase x y d => exact .answered (.quantity rfl)
  | scalar op i x y =>
      exact alike_bind_get slots i fun u v d =>
        .answered (.quantity (sameDimension_scalar d u v x y op))
  | arc op x y => exact alike_settled (outcomes_arc x y op) .quantity
  | refl =>
      cases a with
      | ofUnit x unit => exact alike_settled (outcomes_ofUnit x x unit) .quantity
      | ofBase x d => exact .answered (.quantity rfl)
      | binary op i j =>
          exact alike_bind_get slots i fun x y d => alike_bind_get slots j fun u v e =>
            alike_settled (outcomes_binary d e x y u v op) .quantity
      | scalar op i x =>
          exact alike_bind_get slots i fun u v d =>
            .answered (.quantity (sameDimension_scalar d u v x x op))
      | intPower i n =>
          exact alike_bind_get slots i fun x y d =>
            alike_settled (outcomes_intPower d x y n) .quantity
      | realPower i exponent =>
          exact alike_bind_get slots i fun x y d =>
            alike_settled (outcomes_realPower d x y exponent) .quantity
      | unary op i =>
          exact alike_bind_get slots i fun x y d =>
            alike_settled (outcomes_unary d x y op) .quantity
      | arc op x => exact alike_settled (outcomes_arc x x op) .quantity
      | valueIn i unit =>
          exact alike_bind_get slots i fun x y d =>
            alike_settled (outcomes_valueIn d x y unit) fun _ => .number _ _
      | compare i j =>
          exact alike_bind_get slots i fun x y d => alike_bind_get slots j fun u v e =>
            alike_settled (outcomes_compare d e x y u v) fun _ => .ordering _ _
      | test c i j =>
          exact alike_bind_get slots i fun x y d => alike_bind_get slots j fun u v e =>
            alike_settled (outcomes_test d e x y u v c) fun _ => .truth _ _
      | isUnitless i => exact alike_bind_get slots i fun _ _ _ => .answered (.truth _ _)
      | isAngle i => exact alike_bind_get slots i fun _ _ _ => .answered (.truth _ _)
      | display i precision => exact alike_bind_get slots i fun _ _ _ => .answered (.text _ _)
      | json i => exact alike_bind_get slots i fun _ _ _ => .answered (.text _ _)

end Steps

/-! Two runs, up to the first step at which a value lies outside the domain of an operation. -/

def InsideDomain (store : Store) (steps : List Step) (n : Nat) : Prop :=
  ∀ answer ∈ (runFrom store steps).1.take n, Answer.isOutsideDomain answer = false

instance (store : Store) (steps : List Step) (n : Nat) : Decidable (InsideDomain store steps n) :=
  inferInstanceAs (Decidable (∀ answer ∈ _, Answer.isOutsideDomain answer = false))

theorem insideDomain_cons_succ {store : Store} {step : Step} {rest : List Step} {n : Nat} :
    InsideDomain store (step :: rest) (n + 1) ↔
      Answer.isOutsideDomain (step.run store) = false ∧
        InsideDomain (store.push (Answer.kept (step.run store))) rest n := by
  simp [InsideDomain, runFrom]

theorem runFrom_alike {s t : Store} {p q : List Step} (slots : s.dimensions = t.dimensions)
    (steps : List.Forall₂ Step.SameButValues p q) (n : Nat) (insideS : InsideDomain s p n)
    (insideT : InsideDomain t q n) :
    (runFrom s (p.take n)).2.dimensions = (runFrom t (q.take n)).2.dimensions ∧
      (n < p.length → ∃ a b, (runFrom s p).1[n]? = some a ∧ (runFrom t q).1[n]? = some b ∧
        Answer.Alike a b) := by
  induction steps generalizing s t n with
  | nil => simpa [runFrom] using slots
  | @cons first second restP restQ same steps ih =>
      have alike := same.alike_run slots
      cases n with
      | zero => exact ⟨slots, fun _ => ⟨_, _, rfl, rfl, alike⟩⟩
      | succ n =>
          obtain ⟨firstS, restS⟩ := insideDomain_cons_succ.mp insideS
          obtain ⟨firstT, restT⟩ := insideDomain_cons_succ.mp insideT
          have pushed : Store.dimensions (s.push (Answer.kept (first.run s))) =
              Store.dimensions (t.push (Answer.kept (second.run t))) := by
            rw [Store.dimensions_push, Store.dimensions_push, slots,
              alike.kept_eq ⟨firstS, firstT⟩]
          simpa [runFrom] using ih pushed n restS restT

def lengthStore (x : Float) : Store :=
  #[some ⟨x, .base .length⟩]

def rootOfDouble : List Step :=
  [.binary .add 0 0, .unary .sqrt 1]

/-- The root of a negative length: the sums are alike, and the roots differ in their domain only. -/
theorem runFrom_alike_lengthStore :
    (lengthStore 2.0).dimensions = (lengthStore (-2.0)).dimensions ∧
      InsideDomain (lengthStore 2.0) rootOfDouble 1 ∧
      InsideDomain (lengthStore (-2.0)) rootOfDouble 1 ∧
      ∃ a b, (runFrom (lengthStore 2.0) rootOfDouble).1[1]? = some a ∧
        (runFrom (lengthStore (-2.0)) rootOfDouble).1[1]? = some b ∧ Answer.Alike a b := by
  have slots : (lengthStore 2.0).dimensions = (lengthStore (-2.0)).dimensions := by decide +kernel
  have steps : List.Forall₂ Step.SameButValues rootOfDouble rootOfDouble :=
    .cons (.refl _) (.cons (.refl _) .nil)
  have insideS : InsideDomain (lengthStore 2.0) rootOfDouble 1 := by decide +kernel
  have insideT : InsideDomain (lengthStore (-2.0)) rootOfDouble 1 := by decide +kernel
  have alike := runFrom_alike slots steps 1 insideS insideT
  exact ⟨slots, insideS, insideT, alike.2 (by decide)⟩

end Dimensional.Quantity
