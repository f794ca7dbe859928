import Dimensional.Json.Reading
import Dimensional.Quantity

/-!
Quantities as JSON objects: the number in base units and the canonical unit.  Any unit expression
is read, and none means unitless.
-/

namespace Dimensional.Quantity

/-- Positional from the hundred-thousandths to the quadrillions, with a point at all events. -/
def jsonNumber : Number.Layout where
  positional leading := -5 ≤ leading && leading ≤ 15
  pointZero := true
  plusSign := true
  halfway := .toEven

/-- There is no text for values that are not finite. -/
def jsonValue (x : Float) : List Char :=
  match Number.parts x with
  | .finite .. => jsonNumber.render x
  | _ => ['n', 'u', 'l', 'l']

/-- Unit expressions hold nothing that a JSON string must escape. -/
def toJson (q : Quantity) : List Char :=
  "\x7b\"value\":".toList ++ jsonValue q.value ++ ",\"unit\":\"".toList ++
    q.dimension.unitText ++ "\"\x7d".toList

inductive Field where
  | value
  | unit
deriving DecidableEq, Repr

namespace Field

def name : Field → String
  | value => "value"
  | unit => "unit"

def ofName? (name : List Char) : Option Field :=
  [value, unit].find? (·.name.toList == name)

end Field

inductive JsonProblem where
  | malformed
  | unknownField (name : List Char)
  | duplicateField (field : Field)
  | missingValue
  | wrongKind (field : Field) (found : Json.Value)
  | notAnObject (found : Json.Value)
  | unit (failure : Failure)

namespace JsonProblem

def expected : Field → String
  | .value => "f64"
  | .unit => "a string"

def wrongKindMessage (found : Json.Value) (expected : String) : String :=
  "invalid type: " ++ found.description ++ ", expected " ++ expected

/-- The wording, where the text is JSON at all. -/
def message? : JsonProblem → Option String
  | malformed => none
  | unknownField name =>
      some ("unknown field `" ++ String.ofList name ++ "`, expected `value` or `unit`")
  | duplicateField field => some ("duplicate field `" ++ field.name ++ "`")
  | missingValue => some "missing field `value`"
  | wrongKind field found => some (wrongKindMessage found (expected field))
  | notAnObject found =>
      some (wrongKindMessage found "struct DimensionalVariable with value and unit fields")
  | unit failure => some failure.message

end JsonProblem

/-- What has been read of an object. -/
structure Fields where
  value : Option Float
  unit : Option String

namespace Fields

def empty : Fields :=
  ⟨none, none⟩

def has (fields : Fields) : Field → Bool
  | .value => fields.value.isSome
  | .unit => fields.unit.isSome

/-- The field that a key names, unless it is unknown or has been read before. -/
def expect (fields : Fields) (key : List Char) : Except JsonProblem Field :=
  match Field.ofName? key with
  | none => .error (.unknownField key)
  | some field => if fields.has field then .error (.duplicateField field) else .ok field

def set (fields : Fields) (field : Field) (value : Json.Value) : Except JsonProblem Fields :=
  match field with
  | .value =>
      match value.number? with
      | some x => .ok { fields with value := some x }
      | none => .error (.wrongKind .value value)
  | .unit =>
      match value.string? with
      | some text => .ok { fields with unit := some (String.ofList text) }
      | none => .error (.wrongKind .unit value)

/-- The quantity, once all members have been read. -/
def finish (fields : Fields) : Except JsonProblem Quantity :=
  match fields.value with
  | none => .error .missingValue
  | some value =>
      match Quantity.ofUnit value (fields.unit.getD "") with
      | .ok q => .ok q
      | .error f => .error (.unit f)

end Fields

/-- The quantity and the text behind it; the first problem in the order of the text wins. -/
def ofMembers (fields : Fields) : Json.Members → Except JsonProblem (Quantity × List Char)
  | .closed rest => do
      let q ← fields.finish
      return (q, rest)
  | .malformed => .error .malformed
  | .dangling key => do
      let _ ← fields.expect key
      .error .malformed
  | .member key value next => do
      let field ← fields.expect key
      let fields ← fields.set field value
      ofMembers fields next

/-- Reads a quantity with decimals rounded in a given way. -/
def ofJsonBy (round : Json.Rounding) (text : List Char) : Except JsonProblem Quantity :=
  match Json.value? round (Json.skipSpace text) with
  | none => .error .malformed
  | some (.object, rest) => do
      let (q, rest) ← ofMembers .empty (Json.firstMembers round rest)
      if (Json.skipSpace rest).isEmpty then return q else .error .malformed
  | some (found, _) => .error (.notAnObject found)

def ofJson (text : List Char) : Except JsonProblem Quantity :=
  ofJsonBy Number.ofParts text

end Dimensional.Quantity
