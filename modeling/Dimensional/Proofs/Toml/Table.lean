import Dimensional.Toml.Document

/-!
Two documents that differ in one string only stay so, whatever statements follow.
-/

namespace Dimensional.Toml

/-! The items are the same, but for the string at the end of a path through tables. -/

inductive Item.SameBut (old new : String) : (path : List String) → Item → Item → Prop
  | here : SameBut old new [] (.string old) (.string new)
  | under {key : String} {path : List String} {kind : TableKind} {table : Table} {item other : Item}
      (found : table.find? key = some item) (inner : SameBut old new path item other) :
      SameBut old new (key :: path) (.table kind table) (.table kind (table.put key other))

namespace Table

section Put

variable {table : Table} {key other : String} {item : Item}

theorem put_put (table : Table) (key : String) (first second : Item) :
    (table.put key first).put key second = table.put key second := by
  induction table with
  | nil => simp [put]
  | cons entry table ih =>
      obtain ⟨k, i⟩ := entry
      by_cases same : key = k
      · simp [put, same]
      · simp [put, same, ih]

/-- A key that is there keeps its place, whatever is put under another. -/
theorem put_comm {present : Item} (found : table.find? key = some present) (apart : other ≠ key)
    (item added : Item) :
    (table.put key item).put other added = (table.put other added).put key item := by
  induction table with
  | nil => simp at found
  | cons entry table ih =>
      obtain ⟨k, i⟩ := entry
      rw [find?_cons] at found
      by_cases first : key = k
      · have second : other ≠ k := first ▸ apart
        simp [put, first, second]
      · rw [if_neg first] at found
        by_cases second : other = k
        · simp [put, first, second]
        · simp [put, first, second, ih found]

theorem find?_put_self (table : Table) (key : String) (item : Item) :
    (table.put key item).find? key = some item := by
  simp

theorem find?_put_of_ne (apart : other ≠ key) (table : Table) (item : Item) :
    (table.put key item).find? other = table.find? other := by
  simp [apart]

end Put

theorem at?_put (table : Table) (key : String) (item : Item) (path : List String) :
    (table.put key item).at? (key :: path) = path.foldlM Item.find? item := by
  rw [at?, find?_put_self]
  rfl

theorem foldlM_find?_table {path : List String} (more : path ≠ []) (kind : TableKind)
    (table : Table) : path.foldlM Item.find? (.table kind table) = table.at? path := by
  cases path with
  | nil => exact absurd rfl more
  | cons => rfl

theorem foldlM_find?_tables {path : List String} (more : path ≠ []) (elements : List Table) :
    path.foldlM Item.find? (.tables elements) = none := by
  cases path with
  | nil => exact absurd rfl more
  | cons => rfl

/-- The tables are the same, but for the string at the end of a path. -/
def SameBut (old new : String) (path : List String) (table other : Table) : Prop :=
  ∃ key inner item item', path = key :: inner ∧ table.find? key = some item ∧
    item.SameBut old new inner item' ∧ other = table.put key item'

end Table

section SameBut

variable {old new : String} {path : List String} {kind : TableKind} {table other : Table}
  {item item' : Item}

theorem Table.SameBut.asItem (h : table.SameBut old new path other) (kind : TableKind) :
    (Item.table kind table).SameBut old new path (.table kind other) := by
  obtain ⟨key, inner, item, item', rfl, found, same, rfl⟩ := h
  exact .under found same

theorem Item.SameBut.of_table (h : (Item.table kind table).SameBut old new path item') :
    ∃ other, item' = .table kind other ∧ table.SameBut old new path other := by
  cases h with
  | under found same => exact ⟨_, rfl, _, _, _, _, rfl, found, same, rfl⟩

/-- Where the one holds the first string, the other holds the second. -/
theorem Item.SameBut.foldlM_find? (h : item.SameBut old new path item') :
    path.foldlM Item.find? item' = some (.string new) := by
  induction h with
  | here => rfl
  | under found same ih =>
      simp only [List.foldlM_cons, Item.find?, Table.find?_put_self, Option.bind_eq_bind,
        Option.bind_some]
      exact ih

theorem Table.SameBut.at? (h : table.SameBut old new path other) :
    other.at? path = some (.string new) := by
  obtain ⟨key, inner, item, item', rfl, found, same, rfl⟩ := h
  exact (at?_put ..).trans same.foldlM_find?

end SameBut

/-! Changes of a table do not see the string. -/

namespace Table

variable {made : TableKind} {edit : TableKind → Table → Option Table}

/-- What changes the one of two such tables changes the other, and leaves them as they were. -/
def Overlooks (edit : TableKind → Table → Option Table) : Prop :=
  ∀ ⦃old new path kind table other changed⦄, SameBut old new path table other →
    edit kind table = some changed →
    ∃ changed', edit kind other = some changed' ∧ SameBut old new path changed changed'

theorem Overlooks.fix (h : Overlooks edit) (kind : TableKind) : Overlooks fun _ => edit kind :=
  fun _ _ _ _ _ _ _ same => h same

/-- What is done depends on the item under one key, and puts another in its place. -/
def Keyed (key : String) (edit : TableKind → Table → Option Table) : Prop :=
  ∀ ⦃kind table changed⦄, edit kind table = some changed →
    ∃ item, changed = table.put key item ∧
      ∀ other : Table, other.find? key = table.find? key →
        edit kind other = some (other.put key item)

theorem Keyed.overlooks {key : String} (keyed : Keyed key edit)
    (follows : ∀ {old new path kind table item item' changed}, table.find? key = some item →
      item.SameBut old new path item' → edit kind table = some changed →
      ∃ result result', changed = table.put key result ∧ result.SameBut old new path result' ∧
        edit kind (table.put key item') = some (table.put key result')) : Overlooks edit := by
  rintro old new _ kind table _ changed ⟨place, inner, item, item', rfl, found, same, rfl⟩ h
  by_cases here : place = key
  · subst here
    obtain ⟨result, result', rfl, same', done⟩ := follows found same h
    exact ⟨_, done, place, inner, result, result', rfl, find?_put_self .., same',
      (put_put ..).symm⟩
  · obtain ⟨added, rfl, elsewhere⟩ := keyed h
    refine ⟨_, elsewhere _ (find?_put_of_ne (Ne.symm here) ..), place, inner, item, item', rfl, ?_,
      same, put_comm found (Ne.symm here) ..⟩
    rw [find?_put_of_ne here, found]

theorem overlooks_add (plain : Bool) (key : String) (item : Item) :
    Overlooks (add plain key item) := by
  refine Keyed.overlooks (?_ : Keyed key _) ?_
  · intro kind table changed h
    rw [add] at h
    split at h
    · contradiction
    · rename_i fits
      split at h
      · rename_i found
        exact ⟨item, (Option.some.inj h).symm, fun other same => by
          rw [add, if_neg fits, same, found]⟩
      · contradiction
  · intro old new path kind table present present' changed found _ h
    rw [add, found] at h
    split at h <;> contradiction

theorem overlooks_openAt (key : String) : Overlooks (openAt key) := by
  refine Keyed.overlooks (?_ : Keyed key _) ?_
  · intro kind table changed h
    rw [openAt] at h
    split at h
    · rename_i found
      exact ⟨_, (Option.some.inj h).symm, fun other same => by rw [openAt, same, found]⟩
    · rename_i inner found
      exact ⟨_, (Option.some.inj h).symm, fun other same => by rw [openAt, same, found]⟩
    · contradiction
  · intro old new path kind table item item' changed found same h
    rw [openAt, found] at h
    split at h
    · contradiction
    · rename_i inner implicit
      obtain rfl := Option.some.inj implicit
      obtain ⟨inner', rfl, below⟩ := same.of_table
      refine ⟨_, .table .explicit inner', (Option.some.inj h).symm, below.asItem _, ?_⟩
      rw [openAt, find?_put_self]
      exact congrArg some (put_put ..)
    · contradiction

theorem overlooks_extendAt (key : String) : Overlooks (extendAt key) := by
  refine Keyed.overlooks (?_ : Keyed key _) ?_
  · intro kind table changed h
    rw [extendAt] at h
    split at h
    · rename_i found
      exact ⟨_, (Option.some.inj h).symm, fun other same => by rw [extendAt, same, found]⟩
    · rename_i elements found
      exact ⟨_, (Option.some.inj h).symm, fun other same => by rw [extendAt, same, found]⟩
    · contradiction
  · intro old new path kind table item item' changed found same h
    rw [extendAt, found] at h
    split at h
    · contradiction
    · rename_i elements isArray
      obtain rfl := Option.some.inj isArray
      cases same
    · contradiction

/-- How a path goes on from the item under its first key, and what takes the place of the item. -/
inductive Leads (made : TableKind) (edit : TableKind → Table → Option Table) (path : List String) :
    Option Item → Item → Prop
  | missing {inner : Table} (done : within made edit path made [] = some inner) :
      Leads made edit path none (.table made inner)
  | table {kind : TableKind} {inner changed : Table}
      (opens : ¬(kind = .inline ∨ (made = .dotted ∧ kind = .explicit)))
      (done : within made edit path kind inner = some changed) :
      Leads made edit path (some (.table kind inner)) (.table kind changed)
  | tables {elements : List Table} {last changed : Table} (found : elements.getLast? = some last)
      (done : within made edit path .explicit last = some changed) :
      Leads made edit path (some (.tables elements)) (.tables (elements.dropLast ++ [changed]))

theorem within_cons_eq_some_iff {key : String} {path : List String} {kind : TableKind}
    {table changed : Table} :
    within made edit (key :: path) kind table = some changed ↔
      ∃ item, Leads made edit path (table.find? key) item ∧ changed = table.put key item := by
  rw [within]
  constructor
  · intro h
    split at h
    · rename_i found
      obtain ⟨inner, done, rfl⟩ := Option.map_eq_some_iff.mp h
      exact ⟨_, found ▸ .missing done, rfl⟩
    · rename_i found
      split at h
      · contradiction
      · rename_i opens
        obtain ⟨inner, done, rfl⟩ := Option.map_eq_some_iff.mp h
        exact ⟨_, found ▸ .table opens done, rfl⟩
    · rename_i found
      split at h
      · contradiction
      · rename_i last
        obtain ⟨inner, done, rfl⟩ := Option.map_eq_some_iff.mp h
        exact ⟨_, found ▸ .tables last done, rfl⟩
    · contradiction
  · rintro ⟨item, leads, rfl⟩
    generalize found : table.find? key = present at leads
    cases leads with
    | missing done => simp [done]
    | table opens done => simp [opens, done]
    | tables last done => simp [last, done]

theorem overlooks_within (overlooks : Overlooks edit) (path : List String) :
    Overlooks (within made edit path) := by
  induction path with
  | nil => exact overlooks
  | cons key path ih =>
      refine Keyed.overlooks (?_ : Keyed key _) ?_
      · intro kind table changed h
        obtain ⟨item, leads, rfl⟩ := within_cons_eq_some_iff.mp h
        exact ⟨item, rfl, fun other same =>
          within_cons_eq_some_iff.mpr ⟨item, same ▸ leads, rfl⟩⟩
      · intro old new inner kind table item item' changed found same h
        obtain ⟨result, leads, rfl⟩ := within_cons_eq_some_iff.mp h
        rw [found] at leads
        cases leads with
        | table opens done =>
            obtain ⟨other, rfl, below⟩ := same.of_table
            obtain ⟨changed', done', below'⟩ := ih below done
            refine ⟨_, _, rfl, below'.asItem _,
              within_cons_eq_some_iff.mpr ⟨_, ?_, (put_put ..).symm⟩⟩
            rw [find?_put_self]
            exact .table opens done'
        | tables => cases same

/-- The same where the last part of the path says what is done at the end of the others. -/
theorem overlooks_unsnoc? {edit : List String × String → TableKind → Table → Option Table}
    (overlooks : ∀ split, Overlooks (edit split)) (path : List String) :
    Overlooks fun kind table =>
      (unsnoc? path).bind fun split => within made (edit split) split.1 kind table := by
  intro old new place kind table other changed same h
  obtain ⟨split, parts, done⟩ := Option.bind_eq_some_iff.mp h
  obtain ⟨changed', done', same'⟩ := overlooks_within (overlooks split) split.1 same done
  exact ⟨changed', Option.bind_eq_some_iff.mpr ⟨split, parts, done'⟩, same'⟩

theorem overlooks_assign (key : List String) (item : Item) : Overlooks (assign key item) :=
  overlooks_unsnoc? (fun split => overlooks_add split.1.isEmpty split.2 item) key

theorem overlooks_openHeader (path : List String) : Overlooks fun _ => openHeader path :=
  (overlooks_unsnoc? (fun split => overlooks_openAt split.2) path).fix .explicit

theorem overlooks_extendHeader (path : List String) : Overlooks fun _ => extendHeader path :=
  (overlooks_unsnoc? (fun split => overlooks_extendAt split.2) path).fix .explicit

end Table

/-! Statements, one after another. -/

/-- The same place in two documents that differ in one string. -/
def Draft.SameBut (old new : String) (path : List String) (draft other : Draft) : Prop :=
  draft.root.SameBut old new path other.root ∧ draft.header = other.header

section Draft

variable {old new : String} {path : List String} {draft other changed last : Draft}

/-- A statement changes the root, and says which header is open then. -/
theorem Statement.exists_edit (statement : Statement) (header : List String) :
    ∃ edit opened, Table.Overlooks edit ∧ ∀ root,
      Draft.obey ⟨root, header⟩ statement =
        (edit .explicit root).map fun changed => ⟨changed, opened⟩ := by
  cases statement with
  | header path => exact ⟨_, path, Table.overlooks_openHeader path, fun root => rfl⟩
  | element path => exact ⟨_, path, Table.overlooks_extendHeader path, fun root => rfl⟩
  | entry key item =>
      exact ⟨_, header, Table.overlooks_within (Table.overlooks_assign key item) header,
        fun root => rfl⟩

theorem Draft.SameBut.obey (same : draft.SameBut old new path other) {statement : Statement}
    (h : draft.obey statement = some changed) :
    ∃ changed', other.obey statement = some changed' ∧ changed.SameBut old new path changed' := by
  obtain ⟨root, header⟩ := draft
  obtain ⟨root', header'⟩ := other
  obtain ⟨sameRoot, rfl⟩ := same
  obtain ⟨edit, opened, overlooks, obeys⟩ := statement.exists_edit header
  rw [obeys] at h ⊢
  obtain ⟨table, done, rfl⟩ := Option.map_eq_some_iff.mp h
  obtain ⟨table', done', sameTable⟩ := overlooks sameRoot done
  exact ⟨_, Option.map_eq_some_iff.mpr ⟨table', done', rfl⟩, sameTable, rfl⟩

theorem Draft.SameBut.foldlM_obey (same : draft.SameBut old new path other)
    {statements : List Statement} (h : statements.foldlM Draft.obey draft = some last) :
    ∃ last', statements.foldlM Draft.obey other = some last' ∧
      last.SameBut old new path last' := by
  induction statements generalizing draft other with
  | nil =>
      obtain rfl := Option.some.inj h
      exact ⟨other, rfl, same⟩
  | cons statement statements ih =>
      rw [List.foldlM_cons] at h ⊢
      obtain ⟨changed, first, others⟩ := Option.bind_eq_some_iff.mp h
      obtain ⟨changed', first', same'⟩ := same.obey first
      obtain ⟨last', others', sameLast⟩ := ih same' others
      exact ⟨last', Option.bind_eq_some_iff.mpr ⟨changed', first', others'⟩, sameLast⟩

end Draft

/-! The statement that adds the string. -/

namespace Table

variable {made : TableKind} {key : String} {path : List String} {kind : TableKind}
  {table changed : Table} {old : String}

theorem exists_sameBut_of_add {plain : Bool}
    (h : add plain key (.string old) kind table = some changed) (new : String) :
    ∃ changed', add plain key (.string new) kind table = some changed' ∧
      SameBut old new [key] changed changed' := by
  rw [add] at h
  split at h
  · contradiction
  · rename_i fits
    split at h
    · rename_i free
      obtain rfl := Option.some.inj h
      refine ⟨table.put key (.string new), ?_, key, [], _, _, rfl, find?_put_self .., .here,
        (put_put ..).symm⟩
      rw [add, if_neg fits, free]
    · contradiction

/-- Another string may be added in the place of one that is found where it was added. -/
theorem exists_sameBut_of_assign (h : within made (assign [key] (.string old)) path kind table =
      some changed) (found : changed.at? (path ++ [key]) = some (.string old)) (new : String) :
    ∃ changed', within made (assign [key] (.string new)) path kind table = some changed' ∧
      SameBut old new (path ++ [key]) changed changed' := by
  induction path generalizing kind table changed with
  | nil =>
      have added : add true key (.string old) kind table = some changed := h
      exact exists_sameBut_of_add added new
  | cons head path ih =>
      obtain ⟨item, leads, rfl⟩ := within_cons_eq_some_iff.mp h
      rw [List.cons_append, at?_put] at found
      have more : path ++ [key] ≠ [] := by simp
      have replaced {item' : Item} (leads' : Leads made (assign [key] (.string new)) path
          (table.find? head) item') (same : item.SameBut old new (path ++ [key]) item') :
          ∃ changed', within made (assign [key] (.string new)) (head :: path) kind table =
              some changed' ∧
            SameBut old new (head :: (path ++ [key])) (table.put head item) changed' :=
        ⟨_, within_cons_eq_some_iff.mpr ⟨item', leads', rfl⟩, head, _, item, item', rfl,
          find?_put_self .., same, (put_put ..).symm⟩
      generalize table.find? head = present at leads replaced
      cases leads with
      | missing done =>
          rw [foldlM_find?_table more] at found
          obtain ⟨inner', done', same⟩ := ih done found
          exact replaced (.missing done') (same.asItem _)
      | table opens done =>
          rw [foldlM_find?_table more] at found
          obtain ⟨inner', done', same⟩ := ih done found
          exact replaced (.table opens done') (same.asItem _)
      | tables last done =>
          rw [foldlM_find?_tables more] at found
          contradiction

end Table

end Dimensional.Toml
