import Mathlib.Data.List.Induction
import Dimensional.Proofs.Quantity.Json

/-!
Which objects are quantities.  The members are read in the order of the text, and the first at fault
decides; without a fault their order makes no difference.
-/

namespace Dimensional

namespace Json

abbrev Member := List Char × Value

namespace Members

def ofList : List Member → Members
  | [] => .closed []
  | (key, value) :: behind => .member key value (ofList behind)

/-- The members of an object behind which only blanks stand.  Nested values are known by their
opening bracket, hence whatever is taken to stand behind one. -/
inductive Lists : Members → List Member → Prop
  | closed {rest : List Char} (blank : (skipSpace rest).isEmpty = true) : Lists (.closed rest) []
  | member (key : List Char) (value : Value) {next : Members} {members : List Member}
      (behind : Lists next members) : Lists (.member key value next) ((key, value) :: members)
  | nested (key : List Char) (value : Value) (bracket : value = .array ∨ value = .object)
      (next : Members) (members : List Member) :
      Lists (.member key value next) ((key, value) :: members)

theorem lists_ofList (members : List Member) : (ofList members).Lists members := by
  induction members with
  | nil => exact .closed rfl
  | cons m members ih => exact .member m.1 m.2 ih

end Members

/-- A text that is an object with these members, if decimals are rounded in this way. -/
def IsObject (round : Rounding) (text : List Char) (members : List Member) : Prop :=
  ∃ rest, value? round (skipSpace text) = some (.object, rest) ∧
    (firstMembers round rest).Lists members

end Json

namespace Quantity

open Json (Member)

namespace Field

theorem ofName?_eq_some_iff {name : List Char} {field : Field} :
    ofName? name = some field ↔ name = field.name.toList := by
  constructor
  · intro h
    have same := List.find?_some h
    exact (beq_iff_eq.mp same).symm
  · rintro rfl
    cases field <;> decide

theorem ofName?_eq_none_iff {name : List Char} :
    ofName? name = none ↔ ∀ field : Field, name ≠ field.name.toList := by
  rw [Option.eq_none_iff_forall_ne_some]
  exact forall_congr' fun field => not_congr ofName?_eq_some_iff

/-- A value is a number, and a unit is a string. -/
def admits : Field → Json.Value → Bool
  | value, v => v.number?.isSome
  | unit, v => v.string?.isSome

end Field

/-- What the members of a field hold, in the order of the text. -/
def held (members : List Member) (field : Field) : List Json.Value :=
  (members.filter (·.1 == field.name.toList)).map Prod.snd

section Held

variable {before : List Member} {field : Field}

theorem held_concat_self (v : Json.Value) :
    held (before ++ [(field.name.toList, v)]) field = held before field ++ [v] := by
  simp [held]

theorem held_concat_of_ne {key : List Char} (other : key ≠ field.name.toList) (v : Json.Value) :
    held (before ++ [(key, v)]) field = held before field := by
  simp [held, other]

theorem held_perm {members other : List Member} (same : other.Perm members) (field : Field) :
    (held other field).Perm (held members field) :=
  (same.filter _).map _

end Held

/-- What is wrong with a member behind these. -/
inductive IsProblem (before : List Member) : Member → JsonProblem → Prop
  | unknownField {key : List Char} (v : Json.Value)
      (unknown : ∀ field : Field, key ≠ field.name.toList) :
      IsProblem before (key, v) (.unknownField key)
  | duplicateField (field : Field) (v : Json.Value) (again : held before field ≠ []) :
      IsProblem before (field.name.toList, v) (.duplicateField field)
  | wrongKind (field : Field) (v : Json.Value) (first : held before field = [])
      (other : field.admits v = false) :
      IsProblem before (field.name.toList, v) (.wrongKind field v)

/-- No member has a problem. -/
def Flawless (members : List Member) : Prop :=
  ∀ before m behind problem, members = before ++ m :: behind → ¬ IsProblem before m problem

/-- The problem of a member before which no other has any. -/
def FirstProblem (members : List Member) (problem : JsonProblem) : Prop :=
  ∃ before m behind, members = before ++ m :: behind ∧ Flawless before ∧ IsProblem before m problem

theorem FirstProblem.not_flawless {members : List Member} {problem : JsonProblem}
    (h : FirstProblem members problem) : ¬ Flawless members := by
  obtain ⟨before, m, behind, split, -, amiss⟩ := h
  exact fun flawless => flawless before m behind problem split amiss

theorem FirstProblem.append {members : List Member} {problem : JsonProblem}
    (h : FirstProblem members problem) (more : List Member) :
    FirstProblem (members ++ more) problem := by
  obtain ⟨before, m, behind, rfl, flawless, amiss⟩ := h
  exact ⟨before, m, behind ++ more, by simp, flawless, amiss⟩

/-- The number and the unit that members give: the one value there is and the one unit, if any. -/
structure Gives (members : List Member) (x : Float) (unit : String) : Prop where
  known : ∀ m ∈ members, ∃ field : Field, m.1 = field.name.toList
  value : ∃ v, held members .value = [v] ∧ v.number? = some x
  unit : held members .unit = [] ∧ unit = "" ∨
    ∃ text, held members .unit = [.string text] ∧ unit = String.ofList text

def decode (members : List Member) : Except JsonProblem Quantity := do
  let (q, _) ← ofMembers .empty (.ofList members)
  return q

namespace Fields

/-- One round of reading members. -/
def take (fields : Fields) (m : Member) : Except JsonProblem Fields := do
  let field ← fields.expect m.1
  fields.set field m.2

theorem ofMembers_member (fields : Fields) (m : Member) (next : Json.Members) :
    ofMembers fields (.member m.1 m.2 next) =
      fields.take m >>= fun fields => ofMembers fields next := by
  rw [ofMembers, take, bind_assoc]

theorem take_of_unknown {key : List Char} (unknown : ∀ field : Field, key ≠ field.name.toList)
    (fields : Fields) (v : Json.Value) : fields.take (key, v) = .error (.unknownField key) := by
  rw [take, expect, Field.ofName?_eq_none_iff.mpr unknown]
  rfl

/-- All members, one by one. -/
def takeAll (members : List Member) : Except JsonProblem Fields :=
  members.foldlM take .empty

theorem takeAll_append {before : List Member} {fields : Fields} (read : takeAll before = .ok fields)
    (m : Member) (behind : List Member) :
    takeAll (before ++ m :: behind) = fields.take m >>= fun next => behind.foldlM take next := by
  rw [takeAll] at read ⊢
  rw [List.foldlM_append, read]
  rfl

theorem takeAll_append_of_error {before : List Member} {problem : JsonProblem}
    (read : takeAll before = .error problem) (behind : List Member) :
    takeAll (before ++ behind) = .error problem := by
  rw [takeAll] at read ⊢
  rw [List.foldlM_append, read]
  rfl

variable {fields : Fields} {field : Field} {v : Json.Value}

theorem set_of_not_admits (other : field.admits v = false) :
    fields.set field v = .error (.wrongKind field v) := by
  cases field with
  | value =>
      have number : v.number? = none :=
        Option.not_isSome_iff_eq_none.mp (Bool.eq_false_iff.mp other)
      simp only [set, number]
  | unit =>
      have string : v.string? = none :=
        Option.not_isSome_iff_eq_none.mp (Bool.eq_false_iff.mp other)
      simp only [set, string]

theorem take_of_has (h : fields.has field = true) (v : Json.Value) :
    fields.take (field.name.toList, v) = .error (.duplicateField field) := by
  simp only [take, expect, Field.ofName?_eq_some_iff.mpr rfl, if_pos h]
  rfl

theorem take_of_not_has (h : fields.has field = false) (v : Json.Value) :
    fields.take (field.name.toList, v) = fields.set field v := by
  simp only [take, expect, Field.ofName?_eq_some_iff.mpr rfl, h]
  rfl

theorem exists_take_eq_error (fields : Fields) (key : List Char)
    (other : ∀ field : Field, field.admits v = false) :
    ∃ problem, fields.take (key, v) = .error problem := by
  by_cases named : ∃ field : Field, key = field.name.toList
  · obtain ⟨field, rfl⟩ := named
    cases has : fields.has field with
    | true => exact ⟨_, take_of_has has v⟩
    | false => exact ⟨_, (take_of_not_has has v).trans (set_of_not_admits (other field))⟩
  · exact ⟨_, take_of_unknown (not_exists.mp named) fields v⟩

end Fields

/-- A field has been read off the only value that members hold for it, or there is none. -/
def ReadOff {α : Type} (values : List Json.Value) (read : Json.Value → Option α) : Option α → Prop
  | none => values = []
  | some a => ∃ v, values = [v] ∧ read v = some a

namespace ReadOff

variable {α : Type} {values : List Json.Value} {read : Json.Value → Option α} {found : Option α}

theorem isSome_iff (h : ReadOff values read found) : found.isSome = true ↔ values ≠ [] := by
  cases found with
  | none => exact iff_of_false Bool.false_ne_true (not_not_intro h)
  | some a =>
      obtain ⟨v, rfl, -⟩ := h
      simp

theorem unique {other : Option α} (h : ReadOff values read found)
    (h' : ReadOff values read other) : found = other := by
  cases found with
  | none =>
      cases other with
      | none => rfl
      | some b =>
          obtain ⟨v, shape, -⟩ := h'
          cases h.symm.trans shape
  | some a =>
      obtain ⟨v, rfl, value⟩ := h
      cases other with
      | none => cases h'
      | some b =>
          obtain ⟨w, same, value'⟩ := h'
          cases same
          exact value.symm.trans value'

theorem perm {others : List Json.Value} (h : ReadOff values read found)
    (same : others.Perm values) : ReadOff others read found := by
  cases found with
  | none => exact (h ▸ same).eq_nil
  | some a =>
      obtain ⟨v, rfl, value⟩ := h
      exact ⟨v, same.eq_singleton, value⟩

/-- What has been read off is all that there is. -/
theorem split {front back : List Json.Value} {v : Json.Value}
    (h : ReadOff (front ++ v :: back) read found) : front = [] ∧ (read v).isSome = true := by
  cases found with
  | none => cases (List.append_eq_nil_iff.mp h).2
  | some a =>
      obtain ⟨w, same, value⟩ := h
      obtain ⟨rfl, only⟩ | ⟨-, only⟩ := List.append_eq_singleton_iff.mp same
      · cases only
        exact ⟨rfl, Option.isSome_of_eq_some value⟩
      · cases only

end ReadOff

def unit? (v : Json.Value) : Option String :=
  v.string?.map String.ofList

/-- What has been read once these members have. -/
structure Gathers (members : List Member) (fields : Fields) : Prop where
  known : ∀ m ∈ members, ∃ field : Field, m.1 = field.name.toList
  value : ReadOff (held members .value) Json.Value.number? fields.value
  unit : ReadOff (held members .unit) unit? fields.unit

namespace Gathers

variable {before : List Member} {fields next : Fields}

theorem nil : Gathers [] .empty :=
  ⟨nofun, rfl, rfl⟩

theorem has_iff (gathers : Gathers before fields) (field : Field) :
    fields.has field = true ↔ held before field ≠ [] := by
  cases field with
  | value => exact gathers.value.isSome_iff
  | unit => exact gathers.unit.isSome_iff

theorem has_eq_false_iff (gathers : Gathers before fields) (field : Field) :
    fields.has field = false ↔ held before field = [] := by
  rw [← Bool.not_eq_true, gathers.has_iff, not_not]

/-- Each member is at fault, or gathered with those before it. -/
theorem take_cases (gathers : Gathers before fields) (m : Member) :
    (∃ problem, fields.take m = .error problem ∧ IsProblem before m problem) ∨
      ∃ next, fields.take m = .ok next ∧ Gathers (before ++ [m]) next := by
  obtain ⟨key, v⟩ := m
  by_cases named : ∃ field : Field, key = field.name.toList
  · obtain ⟨field, rfl⟩ := named
    cases has : fields.has field with
    | true =>
        refine .inl ⟨_, Fields.take_of_has has v, .duplicateField field v ?_⟩
        exact (gathers.has_iff field).mp has
    | false =>
        have first := (gathers.has_eq_false_iff field).mp has
        have known : ∀ m ∈ before ++ [(field.name.toList, v)],
            ∃ field : Field, m.1 = field.name.toList := by
          intro m mem
          obtain earlier | last := List.mem_append.mp mem
          · exact gathers.known m earlier
          · rw [List.mem_singleton.mp last]
            exact ⟨field, rfl⟩
        rw [Fields.take_of_not_has has]
        cases admits : field.admits v with
        | false => exact .inl ⟨_, Fields.set_of_not_admits admits, .wrongKind field v first admits⟩
        | true =>
            cases field with
            | value =>
                obtain ⟨x, number⟩ := Option.isSome_iff_exists.mp admits
                refine .inr ⟨{ fields with value := some x }, ?_, known, ?_, ?_⟩
                · simp only [Fields.set, number]
                · rw [held_concat_self, first]
                  exact ⟨v, rfl, number⟩
                · rw [held_concat_of_ne (by decide)]
                  exact gathers.unit
            | unit =>
                obtain ⟨text, string⟩ := Option.isSome_iff_exists.mp admits
                refine .inr ⟨{ fields with unit := some (String.ofList text) }, ?_, known, ?_, ?_⟩
                · simp only [Fields.set, string]
                · rw [held_concat_of_ne (by decide)]
                  exact gathers.value
                · rw [held_concat_self, first]
                  exact ⟨v, rfl, by rw [unit?, string, Option.map_some]⟩
  · have unknown := not_exists.mp named
    exact .inl ⟨_, Fields.take_of_unknown unknown fields v, .unknownField v unknown⟩

theorem take_of_isProblem (gathers : Gathers before fields) {m : Member} {problem : JsonProblem}
    (h : IsProblem before m problem) : fields.take m = .error problem := by
  cases h with
  | unknownField v unknown => exact Fields.take_of_unknown unknown fields v
  | duplicateField field v again => exact Fields.take_of_has ((gathers.has_iff field).mpr again) v
  | wrongKind field v first other =>
      rw [Fields.take_of_not_has ((gathers.has_eq_false_iff field).mpr first)]
      exact Fields.set_of_not_admits other

theorem unique {other : Fields} (gathers : Gathers before fields)
    (gathers' : Gathers before other) : fields = other := by
  have value := gathers.value.unique gathers'.value
  have unit := gathers.unit.unique gathers'.unit
  cases fields
  cases other
  exact congrArg₂ Fields.mk value unit

theorem perm {other : List Member} (gathers : Gathers before fields) (same : other.Perm before) :
    Gathers other fields where
  known m mem := gathers.known m (same.mem_iff.mp mem)
  value := gathers.value.perm (held_perm same .value)
  unit := gathers.unit.perm (held_perm same .unit)

theorem held_split {front back : List Member} {field : Field} {v : Json.Value}
    (gathers : Gathers (front ++ (field.name.toList, v) :: back) fields) :
    held front field = [] ∧ field.admits v = true := by
  have split (field : Field) :
      held (front ++ (field.name.toList, v) :: back) field =
        held front field ++ v :: held back field := by
    simp [held]
  cases field with
  | value =>
      have value := gathers.value
      rw [split .value] at value
      exact value.split
  | unit =>
      have unit := gathers.unit
      rw [split .unit] at unit
      obtain ⟨front, read⟩ := unit.split
      exact ⟨front, (Option.isSome_map ..).symm.trans read⟩

theorem flawless (gathers : Gathers before fields) : Flawless before := by
  rintro front m back problem rfl h
  cases h with
  | unknownField v unknown =>
      obtain ⟨field, named⟩ := gathers.known _ (List.mem_append_right front List.mem_cons_self)
      exact unknown field named
  | duplicateField field v again =>
      exact again gathers.held_split.1
  | wrongKind field v first other =>
      exact absurd gathers.held_split.2 (Bool.eq_false_iff.mp other)

end Gathers

namespace Fields

variable {members : List Member} {fields : Fields} {problem : JsonProblem}

/-- Reading stops at the first problem. -/
theorem takeAll_cases (members : List Member) :
    (∃ fields, takeAll members = .ok fields ∧ Gathers members fields) ∨
      ∃ problem, takeAll members = .error problem ∧ FirstProblem members problem := by
  induction members using List.reverseRecOn with
  | nil => exact .inl ⟨_, rfl, .nil⟩
  | append_singleton before m ih =>
      obtain ⟨fields, read, gathers⟩ | ⟨problem, read, first⟩ := ih
      · rw [takeAll_append read]
        obtain ⟨problem, taken, amiss⟩ | ⟨next, taken, gathers'⟩ := gathers.take_cases m
        · rw [taken]
          exact .inr ⟨problem, rfl, before, m, [], rfl, gathers.flawless, amiss⟩
        · rw [taken]
          exact .inl ⟨next, rfl, gathers'⟩
      · exact .inr ⟨problem, takeAll_append_of_error read [m], first.append [m]⟩

theorem takeAll_eq_error_iff : takeAll members = .error problem ↔ FirstProblem members problem := by
  constructor
  · intro failed
    obtain ⟨fields, read, -⟩ | ⟨found, read, first⟩ := takeAll_cases members
    · cases failed.symm.trans read
    · cases failed.symm.trans read
      exact first
  · rintro ⟨before, m, behind, rfl, flawless, amiss⟩
    obtain ⟨fields, read, gathers⟩ | ⟨earlier, -, first⟩ := takeAll_cases before
    · rw [takeAll_append read, gathers.take_of_isProblem amiss]
      rfl
    · exact (first.not_flawless flawless).elim

theorem takeAll_eq_ok_iff : takeAll members = .ok fields ↔ Gathers members fields := by
  obtain ⟨found, read, gathers⟩ | ⟨problem, read, first⟩ := takeAll_cases members
  · rw [read]
    constructor
    · rintro ⟨⟩
      exact gathers
    · exact fun gathers' => congrArg _ (gathers.unique gathers')
  · rw [read]
    exact iff_of_false nofun fun gathers => first.not_flawless gathers.flawless

theorem exists_takeAll_eq_ok_iff : (∃ fields, takeAll members = .ok fields) ↔ Flawless members := by
  constructor
  · rintro ⟨fields, read⟩
    exact (takeAll_eq_ok_iff.mp read).flawless
  · intro flawless
    obtain ⟨fields, read, -⟩ | ⟨problem, -, first⟩ := takeAll_cases members
    · exact ⟨fields, read⟩
    · exact (first.not_flawless flawless).elim

end Fields

section Decoding

variable {members : List Member}

theorem gives_iff {x : Float} {unit : String} :
    Gives members x unit ↔ ∃ u, Gathers members ⟨some x, u⟩ ∧ unit = u.getD "" := by
  constructor
  · rintro ⟨known, value, ⟨absent, rfl⟩ | ⟨text, one, rfl⟩⟩
    · exact ⟨none, ⟨known, value, absent⟩, rfl⟩
    · exact ⟨some (String.ofList text), ⟨known, value, _, one, rfl⟩, rfl⟩
  · rintro ⟨u, ⟨known, value, read⟩, rfl⟩
    refine ⟨known, value, ?_⟩
    cases u with
    | none => exact .inl ⟨read, rfl⟩
    | some unit =>
        obtain ⟨v, one, string⟩ := read
        obtain ⟨text, found, rfl⟩ := Option.map_eq_some_iff.mp string
        cases v with
        | string text' =>
            cases found
            exact .inr ⟨text, one, rfl⟩
        | _ => cases found

/-- Reading members in turn, with whatever is to be done behind the closing brace. -/
theorem ofMembers_bind {next : Json.Members} (lists : next.Lists members) (fields : Fields)
    {close : Quantity × List Char → Except JsonProblem Quantity}
    (closes : ∀ q rest, (Json.skipSpace rest).isEmpty = true → close (q, rest) = .ok q) :
    ofMembers fields next >>= close = members.foldlM Fields.take fields >>= Fields.finish := by
  induction lists generalizing fields with
  | closed blank =>
      rw [ofMembers, bind_assoc, List.foldlM_nil, pure_bind]
      cases fields.finish with
      | error problem => rfl
      | ok q => exact closes q _ blank
  | member key v behind ih =>
      rw [Fields.ofMembers_member fields (key, v), bind_assoc, List.foldlM_cons, bind_assoc]
      exact congrArg _ (funext ih)
  | nested key v bracket next members =>
      have other (field : Field) : field.admits v = false := by
        obtain rfl | rfl := bracket <;> cases field <;> rfl
      obtain ⟨problem, taken⟩ := fields.exists_take_eq_error key other
      rw [Fields.ofMembers_member fields (key, v), List.foldlM_cons, taken]
      rfl

theorem decode_eq (members : List Member) :
    decode members = Fields.takeAll members >>= Fields.finish :=
  ofMembers_bind (Json.Members.lists_ofList members) .empty fun _ _ _ => rfl

theorem ofJsonBy_eq_decode {round : Json.Rounding} {text : List Char}
    (h : Json.IsObject round text members) : ofJsonBy round text = decode members := by
  obtain ⟨rest, object, lists⟩ := h
  rw [decode_eq, ofJsonBy, object]
  exact ofMembers_bind lists .empty fun _ _ blank => if_pos blank

theorem ofUnit_eq_error_iff {x : Float} {unit : String} {f : Failure} :
    ofUnit x unit = .error f ↔ Units.Registry.standard.parse unit = .error f := by
  rw [ofUnit]
  cases Units.Registry.standard.parse unit with
  | error g =>
      change Except.error g = Except.error f ↔ Except.error g = Except.error f
      rw [Except.error.injEq, Except.error.injEq]
  | ok m =>
      constructor
      · rintro ⟨⟩
      · rintro ⟨⟩

theorem exists_ofUnit_eq_ok_iff {x : Float} {unit : String} :
    (∃ q, ofUnit x unit = .ok q) ↔ ∃ m, Units.Registry.standard.parse unit = .ok m := by
  rw [ofUnit]
  cases Units.Registry.standard.parse unit with
  | error g =>
      constructor
      · rintro ⟨q, ⟨⟩⟩
      · rintro ⟨m, ⟨⟩⟩
  | ok m => exact iff_of_true ⟨_, rfl⟩ ⟨m, rfl⟩

theorem Fields.finish_of_value (x : Float) (u : Option String) :
    Fields.finish ⟨some x, u⟩ = (ofUnit x (u.getD "")).mapError .unit := by
  simp only [finish]
  cases ofUnit x (u.getD "") <;> rfl

theorem decode_of_gives {x : Float} {unit : String} (gives : Gives members x unit) :
    decode members = (ofUnit x unit).mapError .unit := by
  obtain ⟨u, gathers, rfl⟩ := gives_iff.mp gives
  rw [decode_eq, Fields.takeAll_eq_ok_iff.mpr gathers]
  exact Fields.finish_of_value x u

theorem decode_of_no_value (flawless : Flawless members) (absent : held members .value = []) :
    decode members = .error .missingValue := by
  obtain ⟨fields, read⟩ := Fields.exists_takeAll_eq_ok_iff.mpr flawless
  have unread := (Fields.takeAll_eq_ok_iff.mp read).has_eq_false_iff .value |>.mpr absent
  have none : fields.value = none := Option.not_isSome_iff_eq_none.mp (Bool.eq_false_iff.mp unread)
  rw [decode_eq, read]
  change fields.finish = _
  rw [Fields.finish, none]

theorem decode_cases (members : List Member) :
    (∃ problem, FirstProblem members problem ∧ decode members = .error problem) ∨
      Flawless members ∧ (held members .value = [] ∨ ∃ x unit, Gives members x unit) := by
  obtain ⟨⟨value, u⟩, read, gathers⟩ | ⟨problem, read, first⟩ := Fields.takeAll_cases members
  · cases value with
    | none => exact .inr ⟨gathers.flawless, .inl gathers.value⟩
    | some x => exact .inr ⟨gathers.flawless, .inr ⟨x, _, gives_iff.mpr ⟨u, gathers, rfl⟩⟩⟩
  · refine .inl ⟨problem, first, ?_⟩
    rw [decode_eq, read]
    rfl

theorem Gives.perm {x : Float} {unit : String} {other : List Member} (gives : Gives members x unit)
    (same : other.Perm members) : Gives other x unit := by
  obtain ⟨u, gathers, rfl⟩ := gives_iff.mp gives
  exact gives_iff.mpr ⟨u, gathers.perm same, rfl⟩

theorem exists_gives_of_decode_eq_ok {q : Quantity} (decoded : decode members = .ok q) :
    ∃ x unit, Gives members x unit ∧ ofUnit x unit = .ok q := by
  obtain ⟨problem, -, failed⟩ | ⟨flawless, absent | ⟨x, unit, gives⟩⟩ := decode_cases members
  · cases decoded.symm.trans failed
  · cases decoded.symm.trans (decode_of_no_value flawless absent)
  · refine ⟨x, unit, gives, ?_⟩
    rw [decode_of_gives gives] at decoded
    cases made : ofUnit x unit with
    | error f =>
        rw [made] at decoded
        cases decoded
    | ok found =>
        rw [made] at decoded
        cases decoded
        rfl

theorem exists_decode_eq_ok_iff : (∃ q, decode members = .ok q) ↔
    ∃ x unit, Gives members x unit ∧ ∃ m, Units.Registry.standard.parse unit = .ok m := by
  constructor
  · rintro ⟨q, decoded⟩
    obtain ⟨x, unit, gives, made⟩ := exists_gives_of_decode_eq_ok decoded
    exact ⟨x, unit, gives, exists_ofUnit_eq_ok_iff.mp ⟨q, made⟩⟩
  · rintro ⟨x, unit, gives, parsed⟩
    obtain ⟨q, made⟩ := exists_ofUnit_eq_ok_iff (x := x).mpr parsed
    refine ⟨q, ?_⟩
    rw [decode_of_gives gives, made]
    rfl

theorem decode_perm {q : Quantity} {other : List Member} (decoded : decode members = .ok q)
    (same : other.Perm members) : decode other = .ok q := by
  obtain ⟨x, unit, gives, made⟩ := exists_gives_of_decode_eq_ok decoded
  rw [decode_of_gives (gives.perm same), made]
  rfl

/-- A missing value and a unit that cannot be read are found behind the last member. -/
inductive Fails (members : List Member) : JsonProblem → Prop
  | member {problem : JsonProblem} (first : FirstProblem members problem) : Fails members problem
  | missingValue (flawless : Flawless members) (absent : held members .value = []) :
      Fails members .missingValue
  | unit (flawless : Flawless members) {x : Float} {unit : String} (gives : Gives members x unit)
      {f : Failure} (refused : Units.Registry.standard.parse unit = .error f) :
      Fails members (.unit f)

theorem decode_eq_error_iff {problem : JsonProblem} :
    decode members = .error problem ↔ Fails members problem := by
  constructor
  · intro failed
    obtain ⟨found, first, failed'⟩ | ⟨flawless, absent | ⟨x, unit, gives⟩⟩ := decode_cases members
    · cases failed.symm.trans failed'
      exact .member first
    · cases failed.symm.trans (decode_of_no_value flawless absent)
      exact .missingValue flawless absent
    · rw [decode_of_gives gives] at failed
      cases made : ofUnit x unit with
      | error f =>
          rw [made] at failed
          cases failed
          exact .unit flawless gives (ofUnit_eq_error_iff.mp made)
      | ok q =>
          rw [made] at failed
          cases failed
  · intro fails
    cases fails with
    | member first =>
        rw [decode_eq, Fields.takeAll_eq_error_iff.mpr first]
        rfl
    | missingValue flawless absent => exact decode_of_no_value flawless absent
    | unit flawless gives refused =>
        rw [decode_of_gives gives, ofUnit_eq_error_iff.mpr refused]
        rfl

/-- Among such objects are the texts of quantities. -/
theorem isObject_toJson {round : Json.Rounding} {q : Quantity} {v : Json.Value}
    (read : ∀ behind, Json.value? round (jsonValue q.value ++ ',' :: behind) =
      some (v, ',' :: behind))
    (array : v ≠ .array) (object : v ≠ .object) :
    Json.IsObject round q.toJson
      [("value".toList, v), ("unit".toList, .string q.dimension.unitText)] := by
  obtain ⟨rest, opened, members⟩ := exists_members_toJson read array object
  refine ⟨rest, opened, ?_⟩
  rw [members]
  exact .member _ _ (.member _ _ (.closed rfl))

/-- What it means that members are decoded as a quantity. -/
structure Decodes (members : List Member) : Prop where
  succeeds_iff : (∃ q, decode members = .ok q) ↔
    ∃ x unit, Gives members x unit ∧ ∃ m, Units.Registry.standard.parse unit = .ok m
  result : ∀ x unit, Gives members x unit → decode members = (ofUnit x unit).mapError .unit
  permuted : ∀ q other, decode members = .ok q → other.Perm members → decode other = .ok q
  fails_iff : ∀ problem, decode members = .error problem ↔ Fails members problem
  text : ∀ round text, Json.IsObject round text members → ofJsonBy round text = decode members

theorem decodes (members : List Member) : Decodes members where
  succeeds_iff := exists_decode_eq_ok_iff
  result _ _ := decode_of_gives
  permuted _ _ := decode_perm
  fails_iff _ := decode_eq_error_iff
  text _ _ := ofJsonBy_eq_decode

theorem decodes_unitFirst :
    let members := [("unit".toList, Json.Value.string "ft".toList), ("value".toList, .integer 3)]
    ∃ q, decode members = .ok q ∧ decode members.reverse = .ok q := by
  intro members
  have gives : Gives members (Float.ofInt 3) "ft" := by
    refine ⟨?_, ⟨_, rfl, rfl⟩, .inr ⟨_, rfl, rfl⟩⟩
    simp only [members, List.forall_mem_cons]
    exact ⟨⟨.unit, rfl⟩, ⟨.value, rfl⟩, nofun⟩
  have parsed : ∃ m, Units.Registry.standard.parse "ft" = .ok m := by
    have read : (Units.Registry.standard.parse "ft").isOk = true := by decide +kernel
    cases found : Units.Registry.standard.parse "ft" with
    | error f =>
        rw [found] at read
        cases read
    | ok m => exact ⟨m, rfl⟩
  have holds := decodes members
  obtain ⟨q, decoded⟩ := holds.succeeds_iff.mpr ⟨_, _, gives, parsed⟩
  exact ⟨q, decoded, holds.permuted q _ decoded members.reverse_perm⟩

end Decoding

end Quantity

end Dimensional
