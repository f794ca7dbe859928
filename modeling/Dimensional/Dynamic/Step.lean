import Dimensional.Dynamic.Operand
import Dimensional.Number.Layout
import Dimensional.Quantity
import Dimensional.Version

/-!
Constructor calls, method calls, functions and operators over operands, and programs of them.
-/

namespace Dimensional.Dynamic

inductive Step (α : Type) where
  | construct (args : List α) (named : List (String × α))
  | method (self : α) (name : String) (args : List α)
  | function (name : String) (args : List α)
  | binary (op : Quantity.Binary) (left right : α)
  | power (base exponent : α) (modulus : Option α)
  | compare (c : Quantity.Comparison) (left right : α)
  | neg (a : α)
  | abs (a : α)
  | text (a : α)
  | repr (a : α)

inductive Value where
  | quantity (q : Quantity)
  | float (x : Float)
  | bool (b : Bool)
  | tuple (xs : Vector Float 8)
  | text (t : String)

abbrev Result := Except Problem Value

def refusable {α : Type} (wrap : α → Value) (outcome : Except Failure α) : Result :=
  match outcome with
  | .ok a => .ok (wrap a)
  | .error f => .error (.refused f)

/-- The numbers in a representation: positional from the ten-thousandths to the quadrillions,
with a point at all events. -/
def reprNumber : Number.Layout where
  positional leading := -4 ≤ leading && leading < 16
  pointZero := true
  plusSign := false
  halfway := .up

def reprText (q : Quantity) : String :=
  "DimensionalVariable(" ++ String.ofList (reprNumber.render q.value) ++ ", " ++
    Text.quoteString (String.ofList q.dimension.unitText) ++ ")"

/-- The operands of a constructor call by name; each may be given once. -/
def bindArguments (args : List Operand) (named : List (String × Operand)) :
    Except Problem (Operand × Option Operand) :=
  let parameters := ["value", "unit"]
  if parameters.length < args.length then .error .wrongType
  else
    let bound := parameters.zip args ++ named
    let names := bound.map (·.1)
    if names.all (parameters.contains ·) && decide names.Nodup then
      match bound.lookup "value" with
      | some value => .ok (value, bound.lookup "unit")
      | .none => .error .wrongType
    else .error .wrongType

def construct (args : List Operand) (named : List (String × Operand)) : Result := do
  let (value, unit) ← bindArguments args named
  let value ← value.toFloat
  let unit ← match unit with
    | some unit => unit.toText
    | .none => .ok ""
  refusable .quantity (Quantity.ofUnit value unit)

def noArguments (args : List Operand) (result : Result) : Result :=
  if args.isEmpty then result else .error .wrongType

def oneArgument (args : List Operand) (result : Operand → Result) : Result :=
  match args with
  | [a] => result a
  | _ => .error .wrongType

def unaryMethod? : String → Option Quantity.Unary
  | "sqrt" => some .sqrt
  | "ln" => some .ln
  | "log2" => some .log2
  | "log10" => some .log10
  | "sin" => some .sin
  | "cos" => some .cos
  | "tan" => some .tan
  | "asin" => some .asin
  | "acos" => some .acos
  | "atan" => some .atan
  | _ => .none

def method (q : Quantity) (name : String) (args : List Operand) : Result :=
  match name with
  | "value" => noArguments args (.ok (.float q.value))
  | "value_in" => oneArgument args fun unit => do
      refusable .float (q.valueIn (← unit.toText))
  | "is_unitless" => noArguments args (.ok (.bool q.isUnitless))
  | "base_units" => noArguments args (.ok (.tuple q.dimension.toFloats))
  | "powi" => oneArgument args fun n => do
      refusable .quantity (q.intPower (← n.toInt))
  | "powf" => oneArgument args fun exponent => do
      refusable .quantity (q.realPower (← exponent.toFloat))
  | name =>
      match unaryMethod? name with
      | some op => noArguments args (refusable .quantity (op.apply q))
      | .none => .error .noSuchName

def arcFunction (op : Quantity.Arc) (args : List Operand) : Result :=
  oneArgument args fun x => do
    refusable .quantity (op.apply (← x.toFloat))

def function (name : String) (args : List Operand) : Result :=
  match name with
  | "asin" => arcFunction .asin args
  | "acos" => arcFunction .acos args
  | "atan" => arcFunction .atan args
  | "version" => noArguments args (.ok (.text version))
  | _ => .error .noSuchName

/-- The method that an operator asks of the quantity on its left. -/
def forward (op : Quantity.Binary) (self : Quantity) (other : Operand) : Result := do
  let other ← other.toQuantity
  refusable .quantity (op.apply self other)

/-- The method that an operator asks of the quantity on its right. -/
def reflected (op : Quantity.Binary) (self : Quantity) (other : Operand) : Result := do
  let other ← other.toQuantity
  refusable .quantity (op.apply other self)

/-- The operand on the left is asked first; one that is no quantity leaves it to the other. -/
def binary (op : Quantity.Binary) (left right : Operand) : Result :=
  match left, right with
  | .quantity p, right => forward op p right
  | left, .quantity q => reflected op q left
  | _, _ => .error .wrongType

/-- Exponents that are integers of 64 bits are integer powers, all other numbers real ones. -/
def powerBy (q : Quantity) (exponent : Operand) : Result :=
  match exponent.toInt with
  | .ok n => refusable .quantity (q.intPower n)
  | .error _ =>
      match exponent.toFloat with
      | .ok x => refusable .quantity (q.realPower x)
      | .error _ => .error .exponentNotReal

def power (base exponent : Operand) (modulus : Option Operand) : Result :=
  match base with
  | .quantity q =>
      match modulus with
      | .none | some .none => powerBy q exponent
      | some _ => .error .modulus
  | _ => .error .wrongType

/-- Comparing with what is no number finds it unequal, and has no order. -/
def incomparable : Quantity.Comparison → Result
  | .equal => .ok (.bool false)
  | .notEqual => .ok (.bool true)
  | _ => .error .wrongType

/-- A quantity on the left asks its own comparison, one on the right the mirrored one. -/
def compare (c : Quantity.Comparison) (left right : Operand) : Result :=
  match left, right with
  | .quantity p, right =>
      match right.toQuantity? with
      | some q => refusable .bool (Quantity.test c p q)
      | .none => incomparable c
  | left, .quantity q =>
      match left.toQuantity? with
      | some p => refusable .bool (Quantity.test c.mirrored q p)
      | .none => incomparable c
  | _, _ => .error .wrongType

def onQuantity (a : Operand) (use : Quantity → Value) : Result :=
  match a with
  | .quantity q => .ok (use q)
  | _ => .error .wrongType

namespace Step

def evaluate : Step Operand → Result
  | construct args named => Dynamic.construct args named
  | method (.quantity q) name args => Dynamic.method q name args
  | method _ _ _ => .error .noSuchName
  | function name args => Dynamic.function name args
  | binary op left right => Dynamic.binary op left right
  | power base exponent modulus => Dynamic.power base exponent modulus
  | compare c left right => Dynamic.compare c left right
  | neg a => onQuantity a fun q => .quantity q.neg
  | abs a => onQuantity a fun q => .quantity q.abs
  | text a => onQuantity a fun q => .text q.text
  | repr a => onQuantity a fun q => .text (reprText q)

/-- The step with what stands for its operands looked up, unless one is missing. -/
def traverse {α β : Type} (find : α → Option β) : Step α → Option (Step β)
  | construct args named => do
      let args ← args.mapM find
      let named ← named.mapM fun (name, a) => (find a).map (name, ·)
      some (.construct args named)
  | method self name args => do
      let self ← find self
      some (.method self name (← args.mapM find))
  | function name args => do
      some (.function name (← args.mapM find))
  | binary op left right => do
      let left ← find left
      some (.binary op left (← find right))
  | power base exponent modulus => do
      let base ← find base
      let exponent ← find exponent
      match modulus with
      | .none => some (.power base exponent .none)
      | some m => some (.power base exponent (some (← find m)))
  | compare c left right => do
      let left ← find left
      some (.compare c left (← find right))
  | neg a => (find a).map .neg
  | abs a => (find a).map .abs
  | text a => (find a).map .text
  | repr a => (find a).map .repr

end Step

/-- An operand, or the number of the step that made it. -/
inductive Argument where
  | slot (i : Nat)
  | given (operand : Operand)

abbrev Store := Array (Option Quantity)

def Store.find? (store : Store) : Argument → Option Operand
  | .slot i => (store[i]?).join.map .quantity
  | .given operand => some operand

/-- The answer of a step; none if it names a slot that holds no quantity. -/
abbrev Answer := Option Result

def Step.run (store : Store) (step : Step Argument) : Answer :=
  (step.traverse store.find?).map Step.evaluate

def keptOf : Answer → Option Quantity
  | some (.ok (.quantity q)) => some q
  | _ => .none

def runFrom (store : Store) : List (Step Argument) → List Answer × Store
  | [] => ([], store)
  | step :: rest =>
      let answer := step.run store
      let (answers, last) := runFrom (store.push (keptOf answer)) rest
      (answer :: answers, last)

def runProgram (steps : List (Step Argument)) : List Answer :=
  (runFrom #[] steps).1

end Dimensional.Dynamic
