import Dimensional.Proofs.Units.Reading
import Dimensional.Units.Standard
import Mathlib.Data.List.TakeWhile

/-!
Where a refused expression is at fault.  A reader passes over whole symbols that are known and over
characters that are no letters, so that the symbol it stops at is the first unknown one; and what
stands before a character that nothing expects is an expression of its own.
-/

namespace Dimensional

namespace Text

/-- A run of characters of one class that cannot be made longer, and where it stands. -/
structure RunAt (among : Char → Bool) (text before run behind : List Char) : Prop where
  split : text = before ++ (run ++ behind)
  nonempty : run ≠ []
  mem_among : ∀ c ∈ run, among c = true
  starts : ∀ c ∈ before.getLast?, among c = false
  ends : ∀ c ∈ behind.head?, among c = false

theorem byteSize_eq (text : List Char) : byteSize text = (String.ofList text).utf8ByteSize := by
  induction text with
  | nil => rfl
  | cons c text ih =>
      rw [byteSize_cons, ih, String.ofList_cons, String.utf8ByteSize_append,
        String.utf8ByteSize_singleton]

end Text

namespace Units

open Text

namespace Grammar

theorem stops_dropWhile (among : Char → Bool) (text : List Char) :
    Stops among (text.dropWhile among) := by
  intro c first
  have fails := List.head?_dropWhile_not among text
  rwa [Option.mem_def.mp first] at fails

/-- From one place of a text to another over known symbols, and over characters that belong to no
symbol. -/
inductive Passes (registry : Registry) : List Char → List Char → Prop
  | here (text : List Char) : Passes registry text text
  | mark {c : Char} {text rest : List Char} (other : isAlphabetic c = false)
      (onward : Passes registry text rest) : Passes registry (c :: text) rest
  | symbol (name : Name) {text rest : List Char}
      (known : (registry.resolve (String.ofList name.text)).isSome = true)
      (stops : Stops isAlphabetic text) (onward : Passes registry text rest) :
      Passes registry (name.text ++ text) rest

namespace Passes

variable {registry : Registry} {text middle rest : List Char}

theorem trans (first : Passes registry text middle) (second : Passes registry middle rest) :
    Passes registry text rest := by
  induction first with
  | here => exact second
  | mark other _ ih => exact .mark other (ih second)
  | symbol name known stops _ ih => exact .symbol name known stops (ih second)

theorem cons {c : Char} (other : isAlphabetic c = false) (rest : List Char) :
    Passes registry (c :: rest) rest :=
  .mark other (.here rest)

theorem dropWhile {among : Char → Bool}
    (apart : ∀ {c}, among c = true → isAlphabetic c = false) (text : List Char) :
    Passes registry text (text.dropWhile among) := by
  induction text with
  | nil => exact .here []
  | cons c text ih =>
      rw [List.dropWhile_cons]
      split
      case isTrue member => exact .mark (apart member) ih
      case isFalse => exact .here _

theorem trimStart (text : List Char) : Passes registry text (trimStart text) :=
  dropWhile isAlphabetic_of_isBlank text

theorem to_cons {c : Char} (start : Text.trimStart text = c :: rest)
    (other : isAlphabetic c = false) : Passes registry text rest :=
  (trimStart text).trans (start ▸ cons other rest)

/-- No symbol is broken off: a place where a letter stands comes behind a character of another
kind. -/
theorem exists_before (passes : Passes registry text rest) :
    ∃ before, text = before ++ rest ∧
      (¬ Stops isAlphabetic rest → ∀ c ∈ before.getLast?, isAlphabetic c = false) := by
  induction passes with
  | here => exact ⟨[], rfl, by simp⟩
  | @mark c text rest other _ ih =>
      obtain ⟨before, rfl, starts⟩ := ih
      refine ⟨c :: before, rfl, fun letter => ?_⟩
      cases before with
      | nil => simpa using other
      | cons d before => simpa using starts letter
  | @symbol name text rest _ stops _ ih =>
      obtain ⟨before, rfl, starts⟩ := ih
      refine ⟨name.text ++ before, by simp, fun letter => ?_⟩
      cases before with
      | nil => exact absurd stops letter
      | cons d before => simpa using starts letter

/-- Every whole symbol that has been passed over is known. -/
theorem known_of_runAt (passes : Passes registry text rest) {before run behind : List Char}
    (found : RunAt isAlphabetic text before run behind)
    (left : before.length + rest.length < text.length) :
    (registry.resolve (String.ofList run)).isSome = true := by
  induction passes generalizing before with
  | here text => omega
  | @mark c text rest other _ ih =>
      obtain ⟨split, nonempty, letters, starts, ends⟩ := found
      cases before with
      | nil =>
          -- The run would start with the character that is no letter.
          obtain ⟨d, tail, rfl⟩ := List.exists_cons_of_ne_nil nonempty
          obtain ⟨rfl, -⟩ := List.cons.inj split
          exact absurd (letters c (by simp)) (by simp [other])
      | cons d before =>
          obtain ⟨rfl, behindHead⟩ := List.cons.inj split
          refine ih ⟨behindHead, nonempty, letters, fun e last => starts e ?_, ends⟩ ?_
          · rw [List.getLast?_cons, Option.mem_def.mp last]
            rfl
          · simp only [List.length_cons] at left
            omega
  | @symbol name text rest known stops _ ih =>
      obtain ⟨split, nonempty, letters, starts, ends⟩ := found
      obtain ⟨front, rfl, further⟩ | ⟨tail, shape, within⟩ := List.append_eq_append_iff.mp split
      · -- The run stands behind the symbol.
        refine ih ⟨further, nonempty, letters, fun e last => starts e ?_, ends⟩ ?_
        · rw [List.getLast?_append, Option.mem_def.mp last]
          rfl
        · simp only [List.length_append] at left
          omega
      · -- The run starts within the symbol, hence with it, and both end at the last letter.
        cases last : before.getLast? with
        | none =>
            obtain rfl := List.getLast?_eq_none_iff.mp last
            have same : run = name.text := calc
              run = (run ++ behind).takeWhile isAlphabetic :=
                ((Run.mk run letters).takeWhile_append ends).symm
              _ = (name.text ++ text).takeWhile isAlphabetic := by rw [split, List.nil_append]
              _ = name.text := name.takeWhile_append stops
            rwa [same]
        | some c =>
            have letter := name.mem_among c (by simp [shape, List.mem_of_getLast? last])
            exact absurd letter (by simp [starts c last])

end Passes

end Grammar

namespace Fault

open Grammar

/-- A cause that names no symbol, and no character that stands behind a whole expression. -/
def Cause.isInner : Cause → Bool
  | unknownSymbol _ | unexpected _ => false
  | _ => true

/-- What a fault within a text says: a symbol that it names is unknown, and only known ones stand
before it. -/
inductive Blames (registry : Registry) (text : List Char) : Fault → Prop
  | symbol (name : Name) {behind : List Char} (stops : Stops isAlphabetic behind)
      (unknown : registry.resolve (String.ofList name.text) = none)
      (passes : Passes registry text (name.text ++ behind)) :
      Blames registry text ⟨.unknownSymbol name.text, name.text ++ behind⟩
  | inner {fault : Fault} (h : fault.cause.isInner = true) : Blames registry text fault

theorem Blames.behind {registry : Registry} {text middle : List Char} {fault : Fault}
    (blames : Blames registry middle fault) (passes : Passes registry text middle) :
    Blames registry text fault := by
  cases blames with
  | symbol name stops unknown onward => exact .symbol name stops unknown (passes.trans onward)
  | inner h => exact .inner h

end Fault

namespace Reader

open Grammar

/-- From a text on, what succeeds comes to a place behind known symbols, and what fails blames the
text. -/
def Tracks {α : Type} (registry : Registry) (text : List Char) (place : α → List Char) :
    Except Fault α → Prop
  | .ok a => Passes registry text (place a)
  | .error fault => fault.Blames registry text

/-- A reader tracks every text to where it leaves it. -/
def Tracking {α : Type} (registry : Registry) (read : Reader α) : Prop :=
  ∀ text, Tracks registry text Prod.snd (read text)

section Outcomes

variable {registry : Registry} {α β : Type} {text middle rest : List Char} {place : α → List Char}

theorem Tracks.behind {outcome : Except Fault α} (tracks : Tracks registry middle place outcome)
    (passes : Passes registry text middle) : Tracks registry text place outcome := by
  cases outcome with
  | ok a => exact passes.trans tracks
  | error fault => exact Fault.Blames.behind tracks passes

theorem Tracks.bind {first : Except Fault α} {place' : β → List Char} {next : α → Except Fault β}
    (tracks : Tracks registry text place first)
    (onward : ∀ a, Tracks registry (place a) place' (next a)) :
    Tracks registry text place' (first >>= next) := by
  cases first with
  | ok a => exact (onward a).behind tracks
  | error fault => exact tracks

theorem tracks_fault {cause : Fault.Cause} (h : cause.isInner = true) (rest : List Char) :
    Tracks registry text place (fault cause rest) :=
  Fault.Blames.inner h

theorem tracks_missing (wanted : Wanted) (rest : List Char) :
    Tracks registry text place (missing wanted rest) := by
  cases rest <;> exact Fault.Blames.inner rfl

theorem tracks_inRange (outcome : Option Measure) (text : List Char) :
    Tracks registry text Prod.snd (inRange outcome text) := by
  cases outcome with
  | some m => exact Passes.here text
  | none => exact tracks_fault rfl text

end Outcomes

/-! Below factors nothing but blanks, digits and marks is taken. -/

variable {registry : Registry}

theorem tracking_unsigned : Tracking registry unsigned := by
  intro text
  simp only [unsigned]
  split
  · exact tracks_missing _ _
  · split
    · exact Passes.dropWhile isAlphabetic_of_isDigit text
    · exact tracks_fault rfl _

theorem tracking_signed : Tracking registry signed := by
  intro text
  unfold signed
  split
  case h_1 rest =>
    refine Tracks.behind ?_ (Passes.cons (by decide) rest)
    exact (tracking_unsigned rest).bind fun _ => Passes.here _
  case h_2 rest =>
    refine Tracks.behind ?_ (Passes.cons (by decide) rest)
    exact (tracking_unsigned rest).bind fun _ => Passes.here _
  case h_3 => exact (tracking_unsigned _).bind fun _ => Passes.here _

theorem tracks_close (wanted : Wanted) (text : List Char) :
    Tracks registry text id (close wanted text) := by
  unfold close
  split
  case h_1 start => exact Passes.to_cons start (by decide)
  case h_2 => exact tracks_missing _ _

theorem tracking_denominator : Tracking registry denominator := by
  intro text
  unfold denominator
  split
  case h_1 rest start =>
    exact (tracking_unsigned _).behind
      ((Passes.to_cons start (by decide)).trans (Passes.trimStart rest))
  case h_2 => exact Passes.trimStart text

theorem tracking_exponent : Tracking registry exponent := by
  intro text
  unfold exponent
  split
  case h_1 rest start =>
    refine Tracks.behind ?_ ((Passes.to_cons start (by decide)).trans (Passes.trimStart rest))
    refine (tracking_signed _).bind fun numerator => ?_
    refine (tracking_denominator numerator.2).bind fun denominator => ?_
    refine (tracks_close _ denominator.2).bind fun rest => ?_
    split
    · exact tracks_fault rfl _
    · exact Passes.here rest
  case h_2 =>
    refine Tracks.behind ?_ (Passes.trimStart text)
    exact (tracking_signed _).bind fun _ => Passes.here _

theorem tracking_powered (m : Measure) : Tracking registry (powered m) := by
  intro text
  unfold powered
  split
  case h_1 rest start =>
    exact ((tracking_exponent rest).bind fun _ => tracks_inRange _ _).behind
      (Passes.to_cons start (by decide))
  case h_2 => exact Passes.here text

theorem tracking_symbolPowered (m : Measure) : Tracking registry (symbolPowered m) := by
  intro text
  unfold symbolPowered
  split
  · split
    · exact (tracking_unsigned _).bind fun _ => tracks_inRange _ _
    · exact tracking_powered m _
  · exact Passes.here []

theorem tracking_number : Tracking registry number := by
  intro text
  simp only [number]
  split
  · exact (tracking_powered .one _).behind (Passes.dropWhile isAlphabetic_of_isDigit text)
  · exact tracks_fault rfl _

/-- A symbol is taken to its last letter, and named as it stands there when it is unknown. -/
theorem tracks_symbol {c : Char} (letter : isAlphabetic c = true) (tail : List Char) :
    Tracks registry (c :: tail) Prod.snd (symbol registry (c :: tail)) := by
  let name : Name :=
    ⟨⟨(c :: tail).takeWhile isAlphabetic, List.all_eq_true.mp List.all_takeWhile⟩,
      by simp [letter]⟩
  have split : c :: tail = name.text ++ (c :: tail).dropWhile isAlphabetic :=
    List.takeWhile_append_dropWhile.symm
  have stops : Stops isAlphabetic ((c :: tail).dropWhile isAlphabetic) :=
    stops_dropWhile isAlphabetic (c :: tail)
  simp only [symbol]
  split
  case h_1 m known =>
    have passes : Passes registry (name.text ++ (c :: tail).dropWhile isAlphabetic) _ :=
      .symbol name (Option.isSome_iff_exists.mpr ⟨m, known⟩) stops (.here _)
    rw [← split] at passes
    exact (tracking_symbolPowered m _).behind passes
  case h_2 unknown =>
    have blames : Fault.Blames registry (c :: tail) ⟨.unknownSymbol name.text, name.text ++ _⟩ :=
      .symbol name stops unknown (split ▸ .here _)
    rwa [← split] at blames

/-! Factors, groups and expressions, from the readers of their parts. -/

theorem tracking_factorWith {inner : Option (Reader Measure)}
    (inside : ∀ read ∈ inner, Tracking registry read) :
    Tracking registry (factorWith registry inner) := by
  intro text
  simp only [factorWith]
  split
  case h_1 => exact tracks_missing _ _
  case h_2 c rest start =>
    split
    case isTrue isOpen =>
      subst isOpen
      split
      case h_1 => exact tracks_fault rfl _
      case h_2 read =>
        refine Tracks.behind ?_ (Passes.to_cons start (by decide))
        refine (inside read rfl rest).bind fun found => ?_
        exact (tracks_close _ found.2).bind (tracking_powered found.1)
    case isFalse =>
      refine Tracks.behind ?_ (start ▸ Passes.trimStart text)
      split
      · exact tracking_number _
      · split
        case isTrue letter => exact tracks_symbol letter rest
        case isFalse => exact tracks_missing _ _

/-- What the step of a loop has come to: nothing more, or a further place. -/
def placeOf (text : List Char) (found : Option (Measure × List Char)) : List Char :=
  found.elim text Prod.snd

theorem tracks_repeated {step : Measure → List Char → Except Fault (Option (Measure × List Char))}
    (steps : ∀ m text, Tracks registry text (placeOf text) (step m text)) (m : Measure)
    (text : List Char) : Tracks registry text Prod.snd (repeated step m text) := by
  induction m, text using repeated.induct step with
  | case1 m text fault found =>
      rw [repeated, found]
      have blames := steps m text
      rwa [found] at blames
  | case2 m text found =>
      rw [repeated_of_none found]
      exact Passes.here text
  | case3 m text next rest found shorter ih =>
      rw [repeated_of_some found shorter]
      have passes := steps m text
      rw [found] at passes
      exact ih.behind passes
  | case4 m text next rest found stuck =>
      rw [repeated, found]
      simp only [if_neg stuck]
      have passes := steps m text
      rwa [found] at passes

variable {read : Reader Measure}

theorem tracks_hyphenStep (factors : Tracking registry read) (m : Measure) (text : List Char) :
    Tracks registry text (placeOf text) (hyphenStep read m text) := by
  unfold hyphenStep
  split
  case h_1 rest start =>
    refine Tracks.behind ?_ (Passes.to_cons start (by decide))
    exact (factors rest).bind fun _ => (tracks_inRange _ _).bind fun _ => Passes.here _
  case h_2 => exact Passes.here text

theorem tracking_group (factors : Tracking registry read) : Tracking registry (group read) :=
  fun text => (factors text).bind fun _ => tracks_repeated (tracks_hyphenStep factors) _ _

theorem tracks_productStep (factors : Tracking registry read) (m : Measure) (text : List Char) :
    Tracks registry text (placeOf text) (productStep read m text) := by
  unfold productStep
  split
  case h_1 rest start =>
    refine Tracks.behind ?_ (Passes.to_cons start (by decide))
    exact (tracking_group factors rest).bind fun _ => (tracks_inRange _ _).bind fun _ =>
      Passes.here _
  case h_2 rest start =>
    refine Tracks.behind ?_ (Passes.to_cons start (by decide))
    exact (tracking_group factors rest).bind fun _ => (tracks_inRange _ _).bind fun _ =>
      Passes.here _
  case h_3 => exact Passes.here text

theorem tracking_expression (factors : Tracking registry read) :
    Tracking registry (expression read) :=
  fun text => (tracking_group factors text).bind fun _ =>
    tracks_repeated (tracks_productStep factors) _ _

/-- By induction on how many parentheses may still be opened. -/
theorem tracking_factor (registry : Registry) :
    (depth : Nat) → Tracking registry (factor registry depth)
  | 0 => tracking_factorWith (by simp)
  | depth + 1 => by
      refine tracking_factorWith fun read inside => ?_
      cases inside
      exact tracking_expression (tracking_factor registry depth)

end Reader

namespace Registry

open Grammar Reader

variable {registry : Registry}

/-- Reading fails within an expression, or at a character behind a whole one. -/
theorem read_error_cases {text : List Char} {fault : Fault}
    (h : registry.read text = .error fault) :
    fault.Blames registry text ∨
      ∃ before c behind, fault = ⟨.unexpected c, c :: behind⟩ ∧ text = before ++ c :: behind ∧
        isBlank c = false ∧ ∃ m, registry.read before = .ok m := by
  unfold read at h
  split at h
  case isTrue => cases h
  case isFalse =>
    have tracks := tracking_expression (tracking_factor registry maxDepth) text
    cases taken : expression (factor registry maxDepth) text with
    | error inner =>
        rw [taken] at h tracks
        cases h
        exact .inl tracks
    | ok result =>
        obtain ⟨m, rest⟩ := result
        rw [taken, ok_bind] at h
        obtain ⟨tree, rfl, denotes⟩ :=
          (readsExpressions (readsFactors registry maxDepth)).sound taken
        obtain ⟨last, shape⟩ := exists_blanks rest
        simp only at h
        split at h
        case h_1 => cases h
        case h_2 c behind start =>
          cases h
          refine .inr ⟨tree.text ++ last.text, c, behind, rfl, ?_, ?_, m, read_append denotes last⟩
          · rw [List.append_assoc, ← start, ← shape]
          · have first := List.head?_dropWhile_not isBlank rest
            rwa [← trimStart, start] at first

/-- What the refusal of an expression tells of it. -/
structure PointsAtFault (registry : Registry) (unit : String) (failure : Failure) : Prop where
  carries : (∃ reason, failure = .invalidUnitSyntax unit reason) ∨
    ∃ symbol, failure = .unknownUnitSymbol unit symbol
  symbol : ∀ symbol, failure = .unknownUnitSymbol unit symbol →
    ∃ before behind, RunAt isAlphabetic unit.toList before symbol.toList behind ∧
      registry.resolve symbol = none ∧
        ∀ before' run behind', RunAt isAlphabetic unit.toList before' run behind' →
          before'.length < before.length → (registry.resolve (String.ofList run)).isSome = true
  unexpected : ∀ c offset, failure = .invalidUnitSyntax unit (.unexpected c offset) →
    ∃ before behind : String, unit = before ++ String.singleton c ++ behind ∧
      before.utf8ByteSize = offset ∧ isBlank c = false ∧ ∃ m, registry.parse before = .ok m

theorem pointsAtFault_of_blames {unit : String} {fault : Fault}
    (blames : fault.Blames registry unit.toList) :
    PointsAtFault registry unit (fault.failure unit) := by
  cases blames with
  | @symbol name behind stops unknown passes =>
      obtain ⟨before, split, starts⟩ := passes.exists_before
      obtain ⟨c, tail, shape, letter⟩ := name.exists_cons
      have here : ¬ Stops isAlphabetic (name.text ++ behind) := by
        rw [shape, List.cons_append, stops_cons, letter]
        exact Bool.noConfusion
      refine ⟨.inr ⟨_, rfl⟩, ?_, nofun⟩
      rintro _ ⟨⟩
      refine ⟨before, behind, ?_, unknown, fun before' run behind' found left => ?_⟩
      · rw [String.toList_ofList]
        exact ⟨split, name.nonempty, name.mem_among, starts here, stops⟩
      · refine passes.known_of_runAt found ?_
        simp only [split, List.length_append]
        omega
  | inner h =>
      obtain ⟨cause, rest⟩ := fault
      cases cause with
      | unknownSymbol | unexpected => cases h
      | _ => exact ⟨.inl ⟨_, rfl⟩, nofun, nofun⟩

/-- Whoever is told why a unit is refused is told of that unit and of its first fault: the first
run of letters that is no symbol, or the first character with which no expression goes on. -/
theorem parse_pointsAtFault (unit : String) {failure : Failure}
    (h : registry.parse unit = .error failure) : PointsAtFault registry unit failure := by
  unfold parse at h
  split at h
  case h_1 => cases h
  case h_2 fault refused =>
    cases h
    obtain blames | ⟨before, c, behind, rfl, split, notBlank, m, accepted⟩ :=
      read_error_cases refused
    · exact pointsAtFault_of_blames blames
    · refine ⟨.inl ⟨_, rfl⟩, nofun, ?_⟩
      rintro _ _ ⟨⟩
      refine ⟨String.ofList before, String.ofList behind, ?_, ?_, notBlank, m, ?_⟩
      · rw [← String.toList_inj, split]
        simp
      · rw [split, offsetOf_append, byteSize_eq]
      · rw [parse_eq_ok_iff_read, String.toList_ofList]
        exact accepted

theorem parse_pointsAtFault_superscript :
    (standard.parse "km/qq*xx" = .error (.unknownUnitSymbol "km/qq*xx" "qq") ∧
      PointsAtFault standard "km/qq*xx" (.unknownUnitSymbol "km/qq*xx" "qq")) ∧
    (standard.parse "µm ² s" = .error (.invalidUnitSyntax "µm ² s" (.unexpected '²' 4)) ∧
      PointsAtFault standard "µm ² s" (.invalidUnitSyntax "µm ² s" (.unexpected '²' 4))) := by
  have unknown : standard.parse "km/qq*xx" = .error (.unknownUnitSymbol "km/qq*xx" "qq") := by
    have read : standard.read "km/qq*xx".toList =
        .error ⟨.unknownSymbol ['q', 'q'], "qq*xx".toList⟩ := by decide +kernel
    rw [parse, read]
    rfl
  have unexpected : standard.parse "µm ² s" =
      .error (.invalidUnitSyntax "µm ² s" (.unexpected '²' 4)) := by
    have read : standard.read "µm ² s".toList = .error ⟨.unexpected '²', "² s".toList⟩ := by
      decide +kernel
    rw [parse, read]
    rfl
  exact ⟨⟨unknown, parse_pointsAtFault _ unknown⟩, ⟨unexpected, parse_pointsAtFault _ unexpected⟩⟩

end Registry

end Units

end Dimensional
