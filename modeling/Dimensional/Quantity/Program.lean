import Dimensional.Quantity
import Dimensional.Quantity.Json
import Dimensional.Quantity.Operations

/-!
Programs: steps that make quantities from the quantities that earlier steps made.  Step number `i`
keeps what it makes in slot `i`, and a slot is never changed again.
-/

namespace Dimensional.Quantity

inductive Step where
  | ofUnit (value : Float) (unit : String)
  | ofBase (value : Float) (dimension : Dimension)
  | binary (op : Binary) (a b : Nat)
  | scalar (op : Scalar) (a : Nat) (s : Float)
  | intPower (a : Nat) (n : Int)
  | realPower (a : Nat) (exponent : Float)
  | unary (op : Unary) (a : Nat)
  | arc (op : Arc) (x : Float)
  | valueIn (a : Nat) (unit : String)
  | compare (a b : Nat)
  | test (c : Comparison) (a b : Nat)
  | isUnitless (a : Nat)
  | isAngle (a : Nat)
  | display (a : Nat) (precision : Option Nat)
  | json (a : Nat)

inductive Answer where
  | quantity (q : Quantity)
  | number (x : Float)
  | ordering (order : Option Ordering)
  | truth (b : Bool)
  | text (t : String)

inductive Stop where
  | noValue
  | failed (failure : Failure)

abbrev Store := Array (Option Quantity)

namespace Store

def get (store : Store) (slot : Nat) : Except Stop Quantity :=
  match store[slot]? with
  | some (some q) => .ok q
  | _ => .error .noValue

end Store

def settled {α : Type} (answer : α → Answer) (outcome : Except Failure α) : Except Stop Answer :=
  match outcome with
  | .ok a => .ok (answer a)
  | .error f => .error (.failed f)

namespace Step

def run (store : Store) : Step → Except Stop Answer
  | ofUnit value unit => settled .quantity (Quantity.ofUnit value unit)
  | ofBase value dimension => .ok (.quantity ⟨value, dimension⟩)
  | binary op a b => do
      let p ← store.get a
      let q ← store.get b
      settled .quantity (op.apply p q)
  | scalar op a s => do
      let q ← store.get a
      return .quantity (op.apply q s)
  | intPower a n => do
      let q ← store.get a
      settled .quantity (q.intPower n)
  | realPower a exponent => do
      let q ← store.get a
      settled .quantity (q.realPower exponent)
  | unary op a => do
      let q ← store.get a
      settled .quantity (op.apply q)
  | arc op x => settled .quantity (op.apply x)
  | valueIn a unit => do
      let q ← store.get a
      settled .number (q.valueIn unit)
  | compare a b => do
      let p ← store.get a
      let q ← store.get b
      settled .ordering (p.compare q)
  | test c a b => do
      let p ← store.get a
      let q ← store.get b
      settled .truth (Quantity.test c p q)
  | isUnitless a => do
      let q ← store.get a
      return .truth q.isUnitless
  | isAngle a => do
      let q ← store.get a
      return .truth q.isAngle
  | display a precision => do
      let q ← store.get a
      return .text (String.ofList (q.display precision))
  | json a => do
      let q ← store.get a
      return .text (String.ofList q.toJson)

end Step

def Answer.kept : Except Stop Answer → Option Quantity
  | .ok (.quantity q) => some q
  | _ => none

def runFrom (store : Store) : List Step → List (Except Stop Answer) × Store
  | [] => ([], store)
  | step :: rest =>
      let answer := step.run store
      let (answers, last) := runFrom (store.push (Answer.kept answer)) rest
      (answer :: answers, last)

def runProgram (steps : List Step) : List (Except Stop Answer) :=
  (runFrom #[] steps).1

end Dimensional.Quantity
