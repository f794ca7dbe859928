import Dimensional.Proofs.Units.Fault
import Dimensional.Proofs.Units.Retracing

/-!
Progress of reading with a cursor: every call ends between two characters, behind the place where it
started; a success has taken something and has closed what it opened, and every round of a loop
takes an operator and a factor.  Too many parentheses are open at once where reading is refused
for its depth.
-/

namespace Dimensional

namespace Text

def NotBlank (part : List Char) : Prop :=
  ∃ c ∈ part, isBlank c = false

theorem NotBlank.append_left {front : List Char} (solid : NotBlank front) (back : List Char) :
    NotBlank (front ++ back) :=
  solid.imp fun _ found => ⟨List.mem_append_left back found.1, found.2⟩

theorem NotBlank.append_right {back : List Char} (solid : NotBlank back) (front : List Char) :
    NotBlank (front ++ back) :=
  solid.imp fun _ found => ⟨List.mem_append_right front found.1, found.2⟩

end Text

namespace Units

open Text Grammar

namespace Grammar

theorem Word.notBlank {among : Char → Bool} (other : ∀ {c}, among c = true → isBlank c = false)
    (word : Word among) : NotBlank word.text := by
  obtain ⟨c, tail, shape, member⟩ := word.exists_cons
  exact ⟨c, by simp [shape], other member⟩

theorem Integer.notBlank (n : Integer) : NotBlank n.text := by
  obtain ⟨c, tail, shape, notBlank, -⟩ := n.exists_cons
  exact ⟨c, by simp [shape], notBlank⟩

theorem Exponent.notBlank (e : Exponent) : NotBlank e.text := by
  cases e with
  | bare gap n => exact n.notBlank.append_right gap.text
  | whole gap inside n last => exact ⟨'(', by simp [Exponent.text], by decide⟩
  | fraction gap inside n before behind d last => exact ⟨'(', by simp [Exponent.text], by decide⟩

end Grammar

namespace Reader

variable {α : Type} {registry : Registry} {depth : Nat} {read : Reader Measure}

/-- What a success has taken is not white space only. -/
def TakesSome (text : List Char) (read : Except Fault (α × List Char)) : Prop :=
  ∀ a rest, read = .ok (a, rest) → ∃ front, text = front ++ rest ∧ NotBlank front

/-- White space that was looked through behind it is taken as well. -/
theorem TakesSome.notBlank {part rest : List Char} {gap : Blanks} {a : α}
    (takes : TakesSome (part ++ rest) (.ok (a, gap.text ++ rest))) : NotBlank part := by
  obtain ⟨front, split, notBlank⟩ := takes a _ rfl
  have same : part = front ++ gap.text := by
    rw [← List.append_assoc] at split
    exact List.append_cancel_right split
  exact same ▸ notBlank.append_left gap.text

theorem takesSome_unsigned (text : List Char) : TakesSome text (unsigned text) := by
  intro n rest taken
  obtain ⟨digits, shape, -, -⟩ := digits_of_unsigned taken
  exact ⟨digits.text, shape, Word.notBlank isBlank_of_isDigit digits⟩

theorem takesSome_signed (text : List Char) : TakesSome text (signed text) := by
  intro n rest taken
  obtain ⟨i, shape, -, -⟩ := integer_of_signed taken
  exact ⟨i.text, shape, i.notBlank⟩

theorem takesSome_exponent (text : List Char) : TakesSome text (exponent text) := by
  intro r rest taken
  obtain ⟨e, shape, -, -⟩ := exponent_of_read taken
  exact ⟨e.text, shape, e.notBlank⟩

theorem Reads.takesSome {Tree : Type} {textOf : Tree → List Char}
    {denotes : Tree → Measure → Prop} {marks : List Char} (reads : Reads textOf denotes marks read)
    (notBlank : ∀ tree, NotBlank (textOf tree)) (text : List Char) :
    TakesSome text (read text) := by
  intro m rest taken
  obtain ⟨tree, shape, -⟩ := reads.sound taken
  exact ⟨textOf tree, shape, notBlank tree⟩

end Reader

namespace Fault

theorem cause_of_nestedTooDeeply {fault : Fault} {unit : String}
    (failure : fault.failure unit = .invalidUnitSyntax unit .nestedTooDeeply) :
    fault.cause = .nestedTooDeeply := by
  obtain ⟨cause, rest⟩ := fault
  cases cause with
  | nestedTooDeeply => rfl
  | _ => cases failure

end Fault

namespace Registry

theorem fault_of_parse {registry : Registry} {unit : String} {failure : Failure}
    (refused : registry.parse unit = .error failure) :
    ∃ fault, registry.read unit.toList = .error fault ∧ fault.failure unit = failure := by
  unfold parse at refused
  split at refused
  case h_1 => cases refused
  case h_2 fault found =>
    cases refused
    exact ⟨fault, found, rfl⟩

end Registry

namespace Cursor

variable {unit : String} {cursor after : Cursor} {text part rest : List Char}

/-- Between two characters of the unit, or at one of its ends. -/
def AtBoundary (unit : String) (cursor : Cursor) : Prop :=
  String.Pos.Raw.IsValid unit ⟨cursor.offset⟩

theorem Faces.atBoundary (faces : cursor.Faces unit text) : cursor.AtBoundary unit := by
  obtain ⟨front, split, size⟩ := faces
  refine String.Pos.Raw.isValid_iff_exists_append.mpr
    ⟨String.ofList front, String.ofList text, ?_, ?_⟩
  · rw [← String.toList_inj, split]
    simp
  · rw [← size, byteSize_eq]
    rfl

theorem AtBoundary.exists_faces (boundary : cursor.AtBoundary unit) :
    ∃ text, cursor.Faces unit text := by
  obtain ⟨front, back, rfl, place⟩ := String.Pos.Raw.isValid_iff_exists_append.mp boundary
  refine ⟨back.toList, front.toList, String.toList_append, ?_⟩
  rw [byteSize_eq, String.ofList_toList]
  exact (congrArg String.Pos.Raw.byteIdx place).symm

/-- Where a call that starts at a cursor may leave it. -/
structure Reaches (unit : String) (cursor after : Cursor) : Prop where
  boundary : after.AtBoundary unit
  start_le : cursor.offset ≤ after.offset
  le_end : after.offset ≤ unit.utf8ByteSize

theorem Faces.reaches {depth : Nat} (faces : cursor.Faces unit (part ++ rest)) :
    cursor.Reaches unit ⟨cursor.offset + byteSize part, depth⟩ := by
  have boundary : AtBoundary unit ⟨cursor.offset + byteSize part, depth⟩ :=
    faces.behind.atBoundary
  exact ⟨boundary, Nat.le_add_right .., boundary.le_utf8ByteSize⟩

end Cursor

namespace Walk

variable {unit : String} {registry : Registry} {cursor after : Cursor}
  {text part rest : List Char} {α β : Type} {walk : Walk α}

/-- A call comes to an end, and to what its reader comes to.  Having succeeded, it has passed more
than white space, and as many parentheses are open as at its start. -/
inductive Advances (unit : String) (cursor : Cursor) (walk : Walk α) (read : Reader α) : Prop
  | succeeds {a : α} {after : Cursor} {part rest : List Char} {gap : Blanks}
      (faces : cursor.Faces unit (part ++ rest)) (run : walk cursor = some (.ok a, after))
      (same : read (part ++ rest) = .ok (a, gap.text ++ rest))
      (reaches : cursor.Reaches unit after) (notBlank : NotBlank part)
      (passes : after.offset = cursor.offset + byteSize part) (level : after.depth = cursor.depth)
  | fails {fault : Fault} {after : Cursor} {text : List Char} (faces : cursor.Faces unit text)
      (run : walk cursor = some (.error (fault.failure unit), after))
      (same : read text = .error fault) (reaches : cursor.Reaches unit after)

theorem Retraces.advances {read : Reader α} (retraces : Retraces unit cursor text walk (read text))
    (takes : Reader.TakesSome text (read text)) (faces : cursor.Faces unit text) :
    Advances unit cursor walk read := by
  generalize found : read text = outcome at retraces takes
  cases retraces with
  | done gap split left matched run =>
      subst split left
      exact .succeeds faces run found faces.reaches takes.notBlank rfl rfl
  | refused part depth split run crowded =>
      exact .fails faces run found (split ▸ faces).reaches

/-- What a walk has passed where its success is known. -/
theorem Retraces.of_ok {read : Except Fault (α × List Char)} {a : α}
    (retraces : Retraces unit cursor text walk read) (run : walk cursor = some (.ok a, after)) :
    ∃ (gap : Blanks) (part rest : List Char), text = part ++ rest ∧ after = cursor.behind part ∧
      read = .ok (a, gap.text ++ rest) := by
  cases retraces with
  | @done b part rest _ gap split left matched run' =>
      cases run'.symm.trans run
      exact ⟨gap, part, rest, split, rfl, by rw [left]⟩
  | refused part depth split run' crowded => cases run'.symm.trans run

/-! Rounds of a loop. -/

theorem eq_of_inRange {result : Option Measure} {m : Measure}
    (run : inRange unit result cursor = some (.ok m, after)) : after = cursor := by
  cases result with
  | none => cases run
  | some result =>
      cases run
      rfl

theorem taken_of_joined {taken : Walk Measure} {combine : Measure → Option Measure}
    {b : Option Measure} (run : joined unit taken combine cursor = some (.ok b, after)) :
    ∃ m, taken cursor = some (.ok m, after) := by
  obtain ⟨m, place, first, next⟩ := ok_of_bind run
  obtain ⟨result, place', inRange, last⟩ := ok_of_bind next
  cases last
  exact ⟨m, by rw [first, eq_of_inRange inRange]⟩

section Rounds

variable {factor : Walk Measure} {a b : Measure}

/-- The white space that a text starts with. -/
def leadingBlanks (text : List Char) : Blanks :=
  ⟨text.takeWhile isBlank, List.all_eq_true.mp List.all_takeWhile⟩

theorem leadingBlanks_append (text : List Char) :
    (leadingBlanks text).text ++ trimStart text = text :=
  List.takeWhile_append_dropWhile

theorem run_hyphenRound (faces : cursor.Faces unit text) :
    hyphenRound unit factor a cursor =
      if (trimStart text).head? = some '-' then
        joined unit factor a.mul? (cursor.behind (text.takeWhile isBlank ++ ['-']))
      else some (.ok none, cursor.behind (text.takeWhile isBlank)) := by
  rw [hyphenRound, bind_ok (run_skipBlanks faces), bind_ok (run_peek faces.behind_blanks)]
  split
  case isTrue start =>
    obtain ⟨rest, start⟩ := List.head?_eq_some_iff.mp start
    exact run_bump_behind_blanks faces start
  case isFalse => rfl

theorem run_productRound (faces : cursor.Faces unit text) :
    productRound unit factor a cursor =
      if (trimStart text).head? = some '*' then
        joined unit (groupWith unit factor) a.mul? (cursor.behind (text.takeWhile isBlank ++ ['*']))
      else if (trimStart text).head? = some '/' then
        joined unit (groupWith unit factor) a.div? (cursor.behind (text.takeWhile isBlank ++ ['/']))
      else some (.ok none, cursor.behind (text.takeWhile isBlank)) := by
  rw [productRound, bind_ok (run_skipBlanks faces), bind_ok (run_peek faces.behind_blanks)]
  split
  case isTrue start =>
    obtain ⟨rest, start⟩ := List.head?_eq_some_iff.mp start
    exact run_bump_behind_blanks faces start
  case isFalse =>
    split
    case isTrue start =>
      obtain ⟨rest, start⟩ := List.head?_eq_some_iff.mp start
      exact run_bump_behind_blanks faces start
    case isFalse => rfl

variable {depth : Nat} {read : Reader Measure}

/-- A call passes what a factor takes where it starts, and perhaps more. -/
def BeginsWith (factor : Walk Measure) (cursor after : Cursor) (text : List Char) : Prop :=
  ∃ m taken more rest, text = taken ++ (more ++ rest) ∧ NotBlank taken ∧
    factor cursor = some (.ok m, cursor.behind taken) ∧ after = cursor.behind (taken ++ more)

theorem RetracesFactors.taken {m : Measure}
    (factors : RetracesFactors unit registry depth factor read) (faces : cursor.Faces unit text)
    (level : cursor.depth = depth) (run : factor cursor = some (.ok m, after)) :
    ∃ taken rest, text = taken ++ rest ∧ after = cursor.behind taken ∧ NotBlank taken := by
  have takes := factors.reads.takesSome Factor.exists_not_blank text
  obtain ⟨gap, taken, rest, rfl, place, found⟩ := (factors.retraces faces level).of_ok run
  rw [found] at takes
  exact ⟨taken, rest, rfl, place, takes.notBlank⟩

theorem beginsWith_factor {m : Measure} (factors : RetracesFactors unit registry depth factor read)
    (faces : cursor.Faces unit text) (level : cursor.depth = depth)
    (run : factor cursor = some (.ok m, after)) : BeginsWith factor cursor after text := by
  obtain ⟨taken, rest, split, rfl, notBlank⟩ := factors.taken faces level run
  exact ⟨m, taken, [], rest, split, notBlank, run, by rw [List.append_nil]⟩

theorem beginsWith_group {m : Measure} (factors : RetracesFactors unit registry depth factor read)
    (faces : cursor.Faces unit text) (level : cursor.depth = depth)
    (run : groupWith unit factor cursor = some (.ok m, after)) :
    BeginsWith factor cursor after text := by
  obtain ⟨n, place, first, rounds⟩ := ok_of_bind run
  obtain ⟨taken, rest, split, rfl, notBlank⟩ := factors.taken faces level first
  rw [split] at faces
  have onward := retraces_groupLoop factors n noBlanks faces.behind level
  obtain ⟨-, more, rest', split', rfl, -⟩ := onward.of_ok rounds
  exact ⟨n, taken, more, rest', by rw [split, split'], notBlank, first,
    Cursor.behind_behind cursor taken more⟩

/-- A round that goes on has passed an operator, white space in front of it aside, and what a
factor takes behind it; more may follow. -/
def TakesRound (unit : String) (marks : List Char) (factor : Walk Measure)
    (cursor after : Cursor) : Prop :=
  ∃ (gap : Blanks) (mark : Char) (m : Measure) (taken more rest : List Char),
    cursor.Faces unit (gap.text ++ mark :: (taken ++ more) ++ rest) ∧
      after = cursor.behind (gap.text ++ mark :: (taken ++ more)) ∧
      mark ∈ marks ∧ NotBlank taken ∧
      factor (cursor.behind (gap.text ++ [mark])) =
        some (.ok m, cursor.behind (gap.text ++ mark :: taken))

theorem takesRound_of_joined {marks : List Char} {mark : Char} {gap : Blanks}
    {taken : Walk Measure} {combine : Measure → Option Measure} {b : Option Measure}
    (among : mark ∈ marks)
    (begins : ∀ {cursor after : Cursor} {text : List Char} {m : Measure},
      cursor.Faces unit text → cursor.depth = depth → taken cursor = some (.ok m, after) →
        BeginsWith factor cursor after text)
    (faces : cursor.Faces unit (gap.text ++ mark :: rest)) (level : cursor.depth = depth)
    (run : joined unit taken combine (cursor.behind (gap.text ++ [mark])) = some (.ok b, after)) :
    TakesRound unit marks factor cursor after := by
  have behind : (cursor.behind (gap.text ++ [mark])).Faces unit rest := by
    refine Cursor.Faces.behind ?_
    rwa [List.append_assoc, List.singleton_append]
  obtain ⟨n, whole⟩ := taken_of_joined run
  obtain ⟨m, taken, more, rest', rfl, notBlank, first, rfl⟩ := begins behind level whole
  have passed : gap.text ++ mark :: (taken ++ (more ++ rest')) =
      (gap.text ++ mark :: (taken ++ more)) ++ rest' := by
    simp only [List.append_assoc, List.cons_append]
  rw [passed] at faces
  refine ⟨gap, mark, m, taken, more, rest', faces, ?_, among, notBlank, ?_⟩
  · rw [Cursor.behind_behind, List.append_assoc, List.singleton_append]
  · rw [first, Cursor.behind_behind, List.append_assoc, List.singleton_append]

/-- A round of a loop comes to an end: it goes on, stops the loop, or fails. -/
inductive RoundEnds (unit : String) (marks : List Char) (factor : Walk Measure) (cursor : Cursor)
    (round : Walk (Option Measure)) : Prop
  | goesOn {b : Measure} {after : Cursor} (run : round cursor = some (.ok (some b), after))
      (reaches : cursor.Reaches unit after) (level : after.depth = cursor.depth)
      (takes : TakesRound unit marks factor cursor after)
  | stops {after : Cursor} (run : round cursor = some (.ok none, after))
      (reaches : cursor.Reaches unit after) (level : after.depth = cursor.depth)
  | fails {failure : Failure} {after : Cursor} (run : round cursor = some (.error failure, after))
      (reaches : cursor.Reaches unit after)

theorem Retraces.roundEnds {marks : List Char} {round : Walk (Option Measure)}
    {outcome : Except Fault (Option Measure × List Char)}
    (retraces : Retraces unit cursor text round outcome) (faces : cursor.Faces unit text)
    (takes : ∀ {b : Measure} {after : Cursor}, round cursor = some (.ok (some b), after) →
      TakesRound unit marks factor cursor after) :
    RoundEnds unit marks factor cursor round := by
  cases retraces with
  | @done b _ _ _ gap split left matched run =>
      subst split
      cases b with
      | none => exact .stops run faces.reaches rfl
      | some b => exact .goesOn run faces.reaches rfl (takes run)
  | refused part depth split run crowded =>
      subst split
      exact .fails run faces.reaches

theorem takesRound_hyphen (factors : RetracesFactors unit registry depth factor read)
    (faces : cursor.Faces unit text) (level : cursor.depth = depth)
    (run : hyphenRound unit factor a cursor = some (.ok (some b), after)) :
    TakesRound unit ['-'] factor cursor after := by
  rw [run_hyphenRound faces] at run
  split at run
  case isTrue start =>
    obtain ⟨rest, start⟩ := List.head?_eq_some_iff.mp start
    rw [← leadingBlanks_append text, start] at faces
    exact takesRound_of_joined List.mem_cons_self (beginsWith_factor factors) faces level run
  case isFalse => cases run

theorem takesRound_product (factors : RetracesFactors unit registry depth factor read)
    (faces : cursor.Faces unit text) (level : cursor.depth = depth)
    (run : productRound unit factor a cursor = some (.ok (some b), after)) :
    TakesRound unit ['*', '/'] factor cursor after := by
  rw [run_productRound faces] at run
  split at run
  case isTrue start =>
    obtain ⟨rest, start⟩ := List.head?_eq_some_iff.mp start
    rw [← leadingBlanks_append text, start] at faces
    exact takesRound_of_joined (by decide) (beginsWith_group factors) faces level run
  case isFalse =>
    split at run
    case isTrue start =>
      obtain ⟨rest, start⟩ := List.head?_eq_some_iff.mp start
      rw [← leadingBlanks_append text, start] at faces
      exact takesRound_of_joined (by decide) (beginsWith_group factors) faces level run
    case isFalse => cases run

end Rounds

/-- Where an expression is refused for its depth, the text goes on with one more parenthesis than
may be open at once. -/
theorem crowded_of_parse (registry : Registry) (unit : String)
    (refused : registry.parse unit = .error (.invalidUnitSyntax unit .nestedTooDeeply)) :
    ∃ front back, unit.toList = front ++ '(' :: back ∧
      Registry.maxDepth + front.count ')' ≤ front.count '(' := by
  obtain ⟨fault, found, failure⟩ := Registry.fault_of_parse refused
  have notBlank : unit.toList.all isBlank = false := by
    refine Bool.eq_false_iff.mpr fun blank => ?_
    rw [Registry.read_blanks (List.all_eq_true.mp blank)] at found
    cases found
  have whole := retraces_whole unit registry (Nat.lt_succ_self Registry.maxDepth)
  rw [Reader.read_of_not_blank notBlank] at found
  generalize (Reader.expression (Reader.factor registry Registry.maxDepth) unit.toList >>=
    Reader.atEnd) = outcome at found whole
  cases whole with
  | done gap split left matched run => cases found
  | @refused fault' rest part depth split run crowded =>
      cases found
      obtain ⟨opens, many⟩ := crowded (Fault.cause_of_nestedTooDeeply failure)
      obtain ⟨back, rfl⟩ := List.head?_eq_some_iff.mp opens
      exact ⟨part, back, split, by simpa using many⟩

/-- Reading with a cursor gets on from wherever it starts, and is never stuck: no call cuts the unit
within a character or goes on for ever, and there are at most as many expressions under way within
each other as parentheses may still be opened, the outermost one aside. -/
structure MakesProgress (registry : Registry) (unit : String) : Prop where
  expression : ∀ (cursor : Cursor) (calls : Nat), cursor.AtBoundary unit →
    Registry.maxDepth - cursor.depth < calls →
      Advances unit cursor (expression unit registry calls)
        (Reader.expression (Reader.factor registry (Registry.maxDepth - cursor.depth)))
  group : ∀ (cursor : Cursor) (calls : Nat), cursor.AtBoundary unit →
    Registry.maxDepth - cursor.depth ≤ calls →
      Advances unit cursor (group unit registry calls)
        (Reader.group (Reader.factor registry (Registry.maxDepth - cursor.depth)))
  factor : ∀ (cursor : Cursor) (calls : Nat), cursor.AtBoundary unit →
    Registry.maxDepth - cursor.depth ≤ calls →
      Advances unit cursor (factor unit registry calls)
        (Reader.factor registry (Registry.maxDepth - cursor.depth))
  exponent : ∀ cursor : Cursor, cursor.AtBoundary unit →
    Advances unit cursor (exponent unit) Reader.exponent
  signedInteger : ∀ cursor : Cursor, cursor.AtBoundary unit →
    Advances unit cursor (signedInteger unit) Reader.signed
  unsignedInteger : ∀ cursor : Cursor, cursor.AtBoundary unit →
    Advances unit cursor (unsignedInteger unit) Reader.unsigned
  productRound : ∀ (cursor : Cursor) (calls : Nat) (a : Measure), cursor.AtBoundary unit →
    Registry.maxDepth - cursor.depth ≤ calls →
      RoundEnds unit ['*', '/'] (Walk.factor unit registry calls) cursor
        (productRound unit (Walk.factor unit registry calls) a)
  hyphenRound : ∀ (cursor : Cursor) (calls : Nat) (a : Measure), cursor.AtBoundary unit →
    Registry.maxDepth - cursor.depth ≤ calls →
      RoundEnds unit ['-'] (Walk.factor unit registry calls) cursor
        (hyphenRound unit (Walk.factor unit registry calls) a)
  terminates : parse unit registry 65 = some (registry.parse unit)
  limit : registry.parse unit = .error (.invalidUnitSyntax unit .nestedTooDeeply) →
    ∃ front back, unit.toList = front ++ '(' :: back ∧
      Registry.maxDepth + front.count ')' ≤ front.count '('

theorem makesProgress (registry : Registry) (unit : String) : MakesProgress registry unit where
  expression cursor calls boundary enough := by
    obtain ⟨text, faces⟩ := boundary.exists_faces
    have factors := Reader.readsFactors registry (Registry.maxDepth - cursor.depth)
    exact (retraces_expression unit registry enough faces).advances
      ((Reader.readsExpressions factors).takesSome Expression.exists_not_blank text) faces
  group cursor calls boundary enough := by
    obtain ⟨text, faces⟩ := boundary.exists_faces
    have factors := retracesFactors unit registry _ enough
    exact (retraces_group factors faces rfl).advances
      ((Reader.readsGroups factors.reads).takesSome Group.exists_not_blank text) faces
  factor cursor calls boundary enough := by
    obtain ⟨text, faces⟩ := boundary.exists_faces
    have factors := retracesFactors unit registry _ enough
    exact (factors.retraces faces rfl).advances
      (factors.reads.takesSome Factor.exists_not_blank text) faces
  exponent cursor boundary := by
    obtain ⟨text, faces⟩ := boundary.exists_faces
    exact (retraces_exponent faces).advances (Reader.takesSome_exponent text) faces
  signedInteger cursor boundary := by
    obtain ⟨text, faces⟩ := boundary.exists_faces
    exact (retraces_signed faces).advances (Reader.takesSome_signed text) faces
  unsignedInteger cursor boundary := by
    obtain ⟨text, faces⟩ := boundary.exists_faces
    exact (retraces_unsigned faces).advances (Reader.takesSome_unsigned text) faces
  productRound cursor calls a boundary enough := by
    obtain ⟨text, faces⟩ := boundary.exists_faces
    have factors := retracesFactors unit registry _ enough
    exact (retraces_productRound factors a noBlanks faces rfl).roundEnds faces fun run =>
      takesRound_product factors faces rfl run
  hyphenRound cursor calls a boundary enough := by
    obtain ⟨text, faces⟩ := boundary.exists_faces
    have factors := retracesFactors unit registry _ enough
    exact (retraces_hyphenRound factors a noBlanks faces rfl).roundEnds faces fun run =>
      takesRound_hyphen factors faces rfl run
  terminates := parse_eq unit registry (by decide)
  limit := crowded_of_parse registry unit

end Walk

end Units

end Dimensional
