import Dimensional.Quantity.Json
import Dimensional.Proofs.Json.Reading
import Dimensional.Proofs.Number.ExponentField
import Dimensional.Proofs.Units.Canonical

/-!
Quantities read back from their own JSON text: value and dimension as they were, if the value is
finite.  Any other value is written as `null`, which is refused.
-/

namespace Dimensional

namespace Quantity

open Text

variable {round : Json.Rounding}

theorem jsonValue_of_not_isFinite {x : Float} (infinite : x.isFinite = false) :
    jsonValue x = "null".toList := by
  unfold jsonValue
  split
  · next shape =>
      rw [Number.exists_finite_iff.mp ⟨_, _, shape⟩] at infinite
      cases infinite
  · rfl

theorem plain_jsonValue (x : Float) : Plain (jsonValue x) := by
  unfold jsonValue
  split
  · exact Number.Layout.plain_render jsonNumber x
  · decide

theorem toJson_eq (q : Quantity) :
    q.toJson = '\x7b' :: '"' :: ("value".toList ++ '"' :: ':' ::
      (jsonValue q.value ++ ',' :: '"' :: ("unit".toList ++ '"' :: ':' :: '"' ::
        (q.dimension.unitText ++ '"' :: ['\x7d'])))) := by
  have opening : "\x7b\"value\":".toList = '\x7b' :: '"' :: ("value".toList ++ ['"', ':']) := by
    decide
  have between : ",\"unit\":\"".toList = ',' :: '"' :: ("unit".toList ++ ['"', ':', '"']) := by
    decide
  have closing : "\"\x7d".toList = ['"', '\x7d'] := by decide
  unfold toJson
  simp only [opening, between, closing, List.append_assoc, List.cons_append, List.nil_append]

theorem skipSpace_jsonValue (x : Float) (behind : List Char) :
    Json.skipSpace (jsonValue x ++ ',' :: behind) = jsonValue x ++ ',' :: behind := by
  have plain := plain_jsonValue x
  cases shape : jsonValue x with
  | nil => exact Json.skipSpace_cons (by decide) behind
  | cons c text =>
      rw [shape] at plain
      exact Json.skipSpace_cons (Json.isSpace_of_isPlain (plain_cons.mp plain).1) _

theorem members_unit (d : Dimension) :
    Json.members round ("unit".toList ++ '"' :: ':' :: '"' :: (d.unitText ++ '"' :: ['\x7d'])) =
      .member "unit".toList (.string d.unitText) (.closed []) := by
  have read : Json.value? round (Json.skipSpace ('"' :: (d.unitText ++ '"' :: ['\x7d']))) =
      some (.string d.unitText, ['\x7d']) := by
    rw [Json.skipSpace_cons (by decide)]
    exact Json.value?_string (Dimension.plain_unitText d) ['\x7d']
  exact Json.members_of_closed (by decide) read nofun nofun rfl

/-- The text of a quantity is an object with two members, once its value is read as `v`. -/
theorem exists_members_toJson {q : Quantity} {v : Json.Value}
    (read : ∀ behind,
      Json.value? round (jsonValue q.value ++ ',' :: behind) = some (v, ',' :: behind))
    (array : v ≠ .array) (object : v ≠ .object) :
    ∃ rest, Json.value? round (Json.skipSpace q.toJson) = some (.object, rest) ∧
      Json.firstMembers round rest = .member "value".toList v
        (.member "unit".toList (.string q.dimension.unitText) (.closed [])) := by
  have shorter : ("unit".toList ++ '"' :: ':' :: '"' :: (q.dimension.unitText ++ '"' ::
      ['\x7d'])).length < (jsonValue q.value ++ ',' :: '"' :: ("unit".toList ++ '"' :: ':' :: '"' ::
        (q.dimension.unitText ++ '"' :: ['\x7d']))).length := by
    simp only [List.length_append, List.length_cons]
    omega
  have value := Json.members_of_key (by decide : Plain "value".toList)
    ((skipSpace_jsonValue q.value _).symm ▸ read _) array object (Json.nextTurn_comma _) shorter
  rw [members_unit] at value
  rw [toJson_eq, Json.skipSpace_cons (by decide)]
  exact ⟨_, rfl, (Json.firstMembers_quote _).trans value⟩

/-- What is made of the text of a quantity once its value has been read as `v`. -/
theorem ofJson_toJson_eq {q : Quantity} {v : Json.Value}
    (read : ∀ behind,
      Json.value? round (jsonValue q.value ++ ',' :: behind) = some (v, ',' :: behind))
    (array : v ≠ .array) (object : v ≠ .object) :
    ofJsonBy round q.toJson = (do
      let (q, rest) ← ofMembers .empty (.member "value".toList v
        (.member "unit".toList (.string q.dimension.unitText) (.closed [])))
      if (Json.skipSpace rest).isEmpty then return q else .error .malformed) := by
  obtain ⟨rest, opened, members⟩ := exists_members_toJson read array object
  simp only [ofJsonBy, opened, members]

theorem ofMembers_member {fields next : Fields} {key : List Char} {field : Field} {v : Json.Value}
    {behind : Json.Members} (expected : fields.expect key = .ok field)
    (set : fields.set field v = .ok next) :
    ofMembers fields (.member key v behind) = ofMembers next behind := by
  rw [ofMembers, expected]
  change (fields.set field v >>= fun fields => ofMembers fields behind) = _
  rw [set]
  rfl

theorem ofMembers_eq {d : Dimension} {v : Json.Value} {x : Float} (range : d.InRange)
    (number : v.number? = some x) :
    ofMembers .empty (.member "value".toList v (.member "unit".toList (.string d.unitText)
      (.closed []))) = .ok (⟨x * 1.0, d⟩, []) := by
  have parsed : Units.Registry.standard.parse (String.ofList d.unitText) = .ok ⟨d, 1.0⟩ := by
    rw [Units.Registry.parse_eq_ok_iff_read, String.toList_ofList]
    exact Units.Registry.read_unitText range
  have made : Quantity.ofUnit x (String.ofList d.unitText) = .ok ⟨x * 1.0, d⟩ := by
    rw [Quantity.ofUnit, parsed]
    rfl
  have value : Fields.empty.set .value v = .ok ⟨some x, none⟩ := by
    simp only [Fields.set, number]
    rfl
  have finished : (Fields.mk (some x) (some (String.ofList d.unitText))).finish =
      .ok ⟨x * 1.0, d⟩ := by
    simp only [Fields.finish, Option.getD_some, made]
  rw [ofMembers_member rfl value, ofMembers_member rfl rfl, ofMembers, finished]
  rfl

/-- The text of a number is read as that very number, if decimals are rounded in this way. -/
def ReadsBack (round : Json.Rounding) (x : Float) : Prop :=
  ∃ v, Json.value? round (jsonValue x) = some (v, []) ∧ v.number? = some x

theorem ofJson_toJson {q : Quantity} (range : q.dimension.InRange)
    (reads : q.value.isFinite = true → ReadsBack round q.value)
    (unscaled : q.value.isFinite = true → q.value * 1.0 = q.value) :
    (q.value.isFinite = true → ofJsonBy round q.toJson = .ok q) ∧
      (q.value.isFinite = false → ofJsonBy round q.toJson = .error (.wrongKind .value .null) ∧
        (JsonProblem.wrongKind .value .null).message? =
          some "invalid type: null, expected f64") := by
  constructor
  · intro finite
    obtain ⟨v, whole, number⟩ := reads finite
    have array : v ≠ .array := by
      rintro rfl
      cases number
    have object : v ≠ .object := by
      rintro rfl
      cases number
    have read (behind : List Char) :
        Json.value? round (jsonValue q.value ++ ',' :: behind) = some (v, ',' :: behind) :=
      Json.value?_append (by decide) whole number
    rw [ofJson_toJson_eq read array object, ofMembers_eq range number, unscaled finite]
    rfl
  · intro infinite
    have read (behind : List Char) :
        Json.value? round (jsonValue q.value ++ ',' :: behind) = some (.null, ',' :: behind) := by
      rw [jsonValue_of_not_isFinite infinite]
      rfl
    rw [ofJson_toJson_eq read nofun nofun]
    exact ⟨rfl, by decide⟩

theorem ofJson_toJson_negativeZero :
    let q : Quantity := ⟨-0.0, Units.Registry.widest⟩
    q.dimension.InRange ∧ q.value.isFinite = true ∧ ReadsBack Number.ofParts q.value ∧
      q.value * 1.0 = q.value ∧ ofJson q.toJson = .ok q := by
  have range : Units.Registry.widest.InRange := by decide +kernel
  have finite : (-0.0 : Float).isFinite = true := by decide +kernel
  have reads : ReadsBack Number.ofParts (-0.0) := ⟨.float (-0.0), by rfl, rfl⟩
  have unscaled : (-0.0 : Float) * 1.0 = -0.0 := by decide +kernel
  exact ⟨range, finite, reads, unscaled,
    (ofJson_toJson (q := ⟨-0.0, Units.Registry.widest⟩) range (fun _ => reads)
      (fun _ => unscaled)).1 finite⟩

end Quantity

end Dimensional
