import Mathlib.Data.List.Induction
import Dimensional.Proofs.Text.Lines
import Dimensional.Proofs.Toml.Declaration

/-!
Where a document has a string from.  It is given by one statement, which begins a line: by an entry
whose key, below the header that is open there, leads to the string or to a table that holds it.
-/

namespace Dimensional.Toml

variable {text last : List Char} {statements : List Statement} {path : List String}
  {value : String}

/-! Changes of a table that add strings. -/

namespace Table

variable {made kind : TableKind} {edit : TableKind → Table → Option Table} {table : Table}
  {source : List String → String → Prop}

theorem at?_of_foldlM_table
    (h : path.foldlM Item.find? (.table kind table) = some (.string value)) :
    table.at? path = some (.string value) := by
  cases path with
  | nil => simp at h
  | cons => exact h

/-- There is no way to a string through an array of tables. -/
theorem foldlM_tables_ne (path : List String) (elements : List Table) (value : String) :
    path.foldlM Item.find? (.tables elements) ≠ some (.string value) := by
  cases path with
  | nil => simp
  | cons =>
      rw [foldlM_find?_tables (List.cons_ne_nil _ _)]
      simp

/-- A string under a key that was put there is a part of what was put, and every other one was
there before. -/
theorem at?_put_cases {key : String} {item : Item}
    (h : (table.put key item).at? path = some (.string value)) :
    table.at? path = some (.string value) ∨
      ∃ inner, path = key :: inner ∧ inner.foldlM Item.find? item = some (.string value) := by
  cases path with
  | nil => contradiction
  | cons other inner =>
      by_cases same : other = key
      · subst same
        rw [at?_put] at h
        exact .inr ⟨inner, rfl, h⟩
      · rw [at?, find?_put_of_ne same] at h
        exact .inl h

theorem at?_of_put_tables {key : String} {elements : List Table}
    (h : (table.put key (.tables elements)).at? path = some (.string value)) :
    table.at? path = some (.string value) := by
  obtain same | ⟨inner, rfl, holds⟩ := at?_put_cases h
  · exact same
  · exact absurd holds (foldlM_tables_ne _ _ _)

/-- The strings that are new after the change are these. -/
def Adds (source : List String → String → Prop) (edit : TableKind → Table → Option Table) : Prop :=
  ∀ ⦃kind table changed path value⦄, edit kind table = some changed →
    changed.at? path = some (.string value) →
    table.at? path = some (.string value) ∨ source path value

/-- What an item adds where it stands. -/
def Under (place : List String) (item : Item) (path : List String) (value : String) : Prop :=
  ∃ inner, path = place ++ inner ∧ inner.foldlM Item.find? item = some (.string value)

theorem adds_add (plain : Bool) (key : String) (item : Item) :
    Adds (Under [key] item) (add plain key item) := by
  intro kind table changed path value h found
  rw [add] at h
  split at h
  · contradiction
  · split at h
    · obtain rfl := Option.some.inj h
      exact at?_put_cases found
    · contradiction

theorem adds_openAt (key : String) : Adds (fun _ _ => False) (openAt key) := by
  intro kind table changed path value h found
  refine .inl ?_
  rw [openAt] at h
  split at h
  · obtain rfl := Option.some.inj h
    obtain same | ⟨inner, rfl, holds⟩ := at?_put_cases found
    · exact same
    · have empty := at?_of_foldlM_table holds
      cases inner <;> contradiction
  · rename_i inside passed
    obtain rfl := Option.some.inj h
    obtain same | ⟨inner, rfl, holds⟩ := at?_put_cases found
    · exact same
    · rw [at?, passed]
      cases inner with
      | nil => simp at holds
      | cons => exact holds
  · contradiction

theorem adds_extendAt (key : String) : Adds (fun _ _ => False) (extendAt key) := by
  intro kind table changed path value h found
  refine .inl ?_
  rw [extendAt] at h
  split at h
  · obtain rfl := Option.some.inj h
    exact at?_of_put_tables found
  · obtain rfl := Option.some.inj h
    exact at?_of_put_tables found
  · contradiction

/-- Changes at the end of a path add what they add behind it. -/
theorem adds_within (made : TableKind) (adds : Adds source edit) (place : List String) :
    Adds (fun path value => ∃ inner, path = place ++ inner ∧ source inner value)
      (within made edit place) := by
  induction place with
  | nil =>
      intro kind table changed path value h found
      exact (adds h found).imp_right fun new => ⟨path, rfl, new⟩
  | cons key place ih =>
      intro kind table changed path value h found
      obtain ⟨item, leads, rfl⟩ := within_cons_eq_some_iff.mp h
      obtain same | ⟨inner, rfl, holds⟩ := at?_put_cases found
      · exact .inl same
      · rw [at?]
        generalize table.find? key = present at leads
        cases leads with
        | missing done =>
            obtain none | ⟨rest, rfl, new⟩ := ih done (at?_of_foldlM_table holds)
            · cases inner <;> contradiction
            · exact .inr ⟨rest, rfl, new⟩
        | table opens done =>
            obtain same | ⟨rest, rfl, new⟩ := ih done (at?_of_foldlM_table holds)
            · refine .inl ?_
              cases inner with
              | nil => contradiction
              | cons => exact same
            · exact .inr ⟨rest, rfl, new⟩
        | tables => exact absurd holds (foldlM_tables_ne _ _ _)

/-- The same where the last part of the path says what is done at the end of the others. -/
theorem adds_unsnoc? {edit : List String × String → TableKind → Table → Option Table}
    {source : List String × String → List String → String → Prop} (made : TableKind)
    (adds : ∀ split, Adds (source split) (edit split)) (place : List String) :
    Adds (fun path value => ∃ split inner, unsnoc? place = some split ∧ path = split.1 ++ inner ∧
        source split inner value)
      fun kind table =>
        (unsnoc? place).bind fun split => within made (edit split) split.1 kind table := by
  intro kind table changed path value h found
  obtain ⟨split, parts, done⟩ := Option.bind_eq_some_iff.mp h
  obtain same | ⟨inner, whole, new⟩ := adds_within made (adds split) split.1 done found
  · exact .inl same
  · exact .inr ⟨split, inner, parts, whole, new⟩

theorem unsnoc?_eq_some {place : List String} {split : List String × String}
    (h : unsnoc? place = some split) : place = split.1 ++ [split.2] := by
  obtain ⟨key, last, rfl⟩ := Option.map_eq_some_iff.mp h
  obtain ⟨front, rfl⟩ := List.getLast?_eq_some_iff.mp last
  simp

theorem adds_assign (key : List String) (item : Item) :
    Adds (Under key item) (assign key item) := by
  intro kind table changed path value h found
  obtain same | ⟨split, inner, parts, rfl, rest, rfl, holds⟩ :=
    adds_unsnoc? .dotted (fun split => adds_add split.1.isEmpty split.2 item) key h found
  · exact .inl same
  · refine .inr ⟨rest, ?_, holds⟩
    rw [unsnoc?_eq_some parts, List.append_assoc]

/-- A header adds nothing if what is done at its end adds nothing. -/
theorem adds_header {edit : String → TableKind → Table → Option Table}
    (adds : ∀ key, Adds (fun _ _ => False) (edit key)) (place : List String) :
    Adds (fun _ _ => False) fun _ table =>
      (unsnoc? place).bind fun split => within .implicit (edit split.2) split.1 .explicit table := by
  intro kind table changed path value h found
  obtain same | ⟨_, _, _, _, none⟩ :=
    @adds_unsnoc? _ _ .implicit (fun split => adds split.2) place .explicit _ _ _ _ h found
  · exact .inl same
  · exact none.elim

theorem adds_openHeader (place : List String) :
    Adds (fun _ _ => False) fun _ => openHeader place :=
  adds_header adds_openAt place

theorem adds_extendHeader (place : List String) :
    Adds (fun _ _ => False) fun _ => extendHeader place :=
  adds_header adds_extendAt place

end Table

/-! Statements, one after another. -/

section Statements

variable {draft changed final : Draft} {statement : Statement}

/-- The header that is open behind a statement. -/
def Statement.opened (header : List String) : Statement → List String
  | .header path | .element path => path
  | .entry _ _ => header

/-- An entry below a header gives a string to a path. -/
inductive Statement.Gives (header path : List String) (value : String) : Statement → Prop
  | entry {key : List String} {item : Item}
      (holds : Table.Under (header ++ key) item path value) :
      Gives header path value (.entry key item)

theorem header_obey (h : draft.obey statement = some changed) :
    changed.header = statement.opened draft.header := by
  cases statement <;>
    · obtain ⟨root, -, rfl⟩ := Option.map_eq_some_iff.mp h
      rfl

theorem at?_obey_cases (h : draft.obey statement = some changed)
    (found : changed.root.at? path = some (.string value)) :
    draft.root.at? path = some (.string value) ∨ statement.Gives draft.header path value := by
  cases statement with
  | header place =>
      obtain ⟨root, done, rfl⟩ := Option.map_eq_some_iff.mp h
      exact (@Table.adds_openHeader place .explicit _ _ _ _ done found).imp_right False.elim
  | element place =>
      obtain ⟨root, done, rfl⟩ := Option.map_eq_some_iff.mp h
      exact (@Table.adds_extendHeader place .explicit _ _ _ _ done found).imp_right False.elim
  | entry key item =>
      obtain ⟨root, done, rfl⟩ := Option.map_eq_some_iff.mp h
      obtain same | ⟨_, rfl, inner, rfl, holds⟩ :=
        Table.adds_within .implicit (Table.adds_assign key item) draft.header done found
      · exact .inl same
      · exact .inr (.entry ⟨inner, (List.append_assoc ..).symm, holds⟩)

/-- A string that is there in the end was there before, or one of the statements gives it. -/
theorem exists_gives_of_foldlM (h : statements.foldlM Draft.obey draft = some final)
    (found : final.root.at? path = some (.string value)) :
    draft.root.at? path = some (.string value) ∨
      ∃ before statement behind, statements = before ++ statement :: behind ∧
        statement.Gives (before.foldl Statement.opened draft.header) path value := by
  induction statements generalizing draft with
  | nil =>
      obtain rfl := Option.some.inj h
      exact .inl found
  | cons first statements ih =>
      rw [List.foldlM_cons] at h
      obtain ⟨changed, done, others⟩ := Option.bind_eq_some_iff.mp h
      obtain there | ⟨before, statement, behind, rfl, gives⟩ := ih others
      · obtain same | gives := at?_obey_cases done there
        · exact .inl same
        · exact .inr ⟨[], first, statements, rfl, gives⟩
      · refine .inr ⟨first :: before, statement, behind, rfl, ?_⟩
        rwa [header_obey done] at gives

end Statements

/-! Statements and the lines that they begin. -/

section Lines

open Text (flatten_linesKept linesKept linesKept_append_newline linesKept_ne_nil)

variable {statement : Statement} {before behind : List Statement}

/-- A statement stands at the front of a text. -/
def Statement.Starts (statement : Statement) (text : List Char) : Prop :=
  ∃ rest, Statement.read? (skipGap text) = some (some statement, rest)

theorem Statement.Starts.ne_nil (h : statement.Starts text) : text ≠ [] := by
  rintro rfl
  obtain ⟨rest, read⟩ := h
  simp [skipGap, read?] at read

theorem passes_of_statements? (h : statements? text = some statements) :
    Passes text statements [] := by
  fun_induction statements? text generalizing statements with
  | case1 text empty =>
      obtain rfl := Option.some.inj h
      obtain rfl := List.isEmpty_iff.mp empty
      exact .done []
  | case4 text nonempty statement rest read behind ends shorter ih =>
      obtain ⟨more, readMore, rfl⟩ := Option.map_eq_some_iff.mp h
      exact .line read ends shorter (ih readMore)
  | case2 | case3 | case5 => contradiction

/-- Each of the statements is passed at a place of its own. -/
theorem Passes.split (h : Passes text (before ++ statement :: behind) last) :
    ∃ middle, Passes text before middle ∧ statement.Starts middle ∧
      Passes middle (statement :: behind) last := by
  generalize shape : before ++ statement :: behind = statements at h
  induction h generalizing before with
  | done => simp at shape
  | @line text rest others last first statements read ends shorter more ih =>
      cases first with
      | none =>
          obtain ⟨middle, passes, starts, next⟩ := ih shape
          exact ⟨middle, .line read ends shorter passes, starts, next⟩
      | some first =>
          cases before with
          | nil =>
              obtain ⟨rfl, rfl⟩ := List.cons.inj shape
              exact ⟨text, .done text, ⟨rest, read⟩, .line read ends shorter more⟩
          | cons other before =>
              obtain ⟨rfl, others⟩ := List.cons.inj shape
              obtain ⟨middle, passes, starts, next⟩ := ih others
              exact ⟨middle, .line read ends shorter passes, starts, next⟩

theorem Passes.exists_lines (h : Passes text statements last) (more : last ≠ []) :
    ∃ before, linesKept text = before ++ linesKept last ∧ (statements ≠ [] → before ≠ []) := by
  obtain ⟨rfl, rfl⟩ | ⟨front, rfl, -⟩ := h.exchange more
  · exact ⟨[], rfl, fun some => absurd rfl some⟩
  · exact ⟨linesKept (front ++ ['\n']), linesKept_append_newline front last, fun _ =>
      linesKept_ne_nil (by simp)⟩

/-- A line of the text begins with a statement, behind others. -/
structure Statement.Begins (statement : Statement) (text : List Char) (passed : List Statement)
    (before : List (List Char)) (line : List Char) (behind : List (List Char)) : Prop where
  lines : linesKept text = before ++ line :: behind
  passes : Passes text passed (line :: behind).flatten
  starts : statement.Starts (line :: behind).flatten

theorem Statement.Begins.linesKept_flatten {front behind : List (List Char)} {line : List Char}
    (h : statement.Begins text before front line behind) :
    linesKept (line :: behind).flatten = line :: behind :=
  Text.linesKept_flatten (h.lines ▸ Text.areLines_linesKept text).of_append

/-- A place where a statement is read begins a line. -/
theorem exists_begins_of_passes (passes : Passes text before last)
    (starts : statement.Starts last) :
    ∃ front line behind, statement.Begins text before front line behind ∧
      linesKept last = line :: behind := by
  obtain ⟨front, lines, -⟩ := passes.exists_lines starts.ne_nil
  obtain ⟨line, behind, shape⟩ := List.exists_cons_of_ne_nil (linesKept_ne_nil starts.ne_nil)
  have whole : (line :: behind).flatten = last := by rw [← shape, flatten_linesKept]
  rw [shape] at lines
  exact ⟨front, line, behind, ⟨lines, whole ▸ passes, whole ▸ starts⟩, shape⟩

end Lines

/-! Origins of strings. -/

section Origin

/-- The statement that gives a string to a path, and the line that it begins. -/
structure Origin (text : List Char) (path : List String) (value : String) where
  passed : List Statement
  before : List (List Char)
  line : List Char
  behind : List (List Char)
  statement : Statement
  begins : statement.Begins text passed before line behind
  gives : statement.Gives (passed.foldl Statement.opened []) path value

namespace Origin

/-- The header below which the statement stands. -/
def header (origin : Origin text path value) : List String :=
  origin.passed.foldl Statement.opened []

/-- The statement that opens the header, and the line that it begins.  Only entries follow until
the string is given. -/
structure Opening (origin : Origin text path value) where
  passed : List Statement
  entries : List Statement
  earlier : List (List Char)
  start : List Char
  later : List (List Char)
  opener : Statement
  begins : opener.Begins text passed earlier start (later ++ origin.line :: origin.behind)
  lines : origin.before = earlier ++ start :: later
  opens : opener = .header origin.header ∨ opener = .element origin.header
  statements : origin.passed = passed ++ opener :: entries
  onlyEntries : ∀ statement ∈ entries, ∃ key item, statement = .entry key item

end Origin

/-- Every string of a document has an origin. -/
theorem nonempty_origin (h : text? text path = some value) :
    Nonempty (Origin (dropMark text) path value) := by
  obtain ⟨root, valid, holds⟩ := Option.bind_eq_some_iff.mp h
  obtain ⟨item, found, isString⟩ := Option.bind_eq_some_iff.mp holds
  obtain rfl : item = .string value := by
    cases item <;> simp_all [Item.text?]
  obtain ⟨statements, readAll, made⟩ := Option.bind_eq_some_iff.mp valid
  obtain ⟨last, obeyed, rfl⟩ := Option.map_eq_some_iff.mp made
  obtain none | ⟨passed, statement, behind, rfl, gives⟩ := exists_gives_of_foldlM obeyed found
  · cases path <;> contradiction
  · obtain ⟨middle, passes, starts, -⟩ := (passes_of_statements? readAll).split
    obtain ⟨before, line, behind, begins, -⟩ := exists_begins_of_passes passes starts
    exact ⟨⟨passed, before, line, behind, statement, begins, gives⟩⟩

/-- The header that is open was opened by the latest statement that is no entry. -/
theorem exists_opener {passed : List Statement} {header : List String}
    (h : passed.foldl Statement.opened [] = header) (named : header ≠ []) :
    ∃ before opener entries, passed = before ++ opener :: entries ∧
      (opener = .header header ∨ opener = .element header) ∧
        ∀ statement ∈ entries, ∃ key item, statement = .entry key item := by
  induction passed using List.reverseRecOn with
  | nil => exact absurd h.symm named
  | append_singleton passed statement ih =>
      rw [List.foldl_append] at h
      cases statement with
      | header path =>
          obtain rfl : path = header := h
          exact ⟨passed, _, [], rfl, .inl rfl, by simp⟩
      | element path =>
          obtain rfl : path = header := h
          exact ⟨passed, _, [], rfl, .inr rfl, by simp⟩
      | entry key item =>
          obtain ⟨before, opener, entries, rfl, opens, onlyEntries⟩ := ih h
          refine ⟨before, opener, entries ++ [.entry key item], by simp, opens, ?_⟩
          exact List.forall_mem_append.mpr
            ⟨onlyEntries, List.forall_mem_singleton.mpr ⟨key, item, rfl⟩⟩

theorem Origin.nonempty_opening (origin : Origin text path value) (named : origin.header ≠ []) :
    Nonempty origin.Opening := by
  obtain ⟨passed, opener, entries, statements, opens, onlyEntries⟩ := exists_opener rfl named
  have passes := origin.begins.passes
  rw [statements] at passes
  obtain ⟨middle, first, starts, next⟩ := passes.split
  obtain ⟨earlier, start, more, begins, shape⟩ := exists_begins_of_passes first starts
  obtain ⟨between, lines, some⟩ := next.exists_lines origin.begins.starts.ne_nil
  obtain ⟨first, later, rfl⟩ := List.exists_cons_of_ne_nil (some (List.cons_ne_nil _ _))
  rw [origin.begins.linesKept_flatten, shape, List.cons_append] at lines
  obtain ⟨rfl, rfl⟩ := List.cons.inj lines
  have whole := origin.begins.lines.symm.trans begins.lines
  rw [← List.cons_append, ← List.append_assoc] at whole
  exact ⟨⟨passed, entries, earlier, start, later, opener, begins, List.append_cancel_right whole,
    opens, statements, onlyEntries⟩⟩

end Origin

end Dimensional.Toml
