import Dimensional.Files
import Dimensional.Proofs.Text.Lines

/-!
Writing to a file changes the text at one place and nothing else; where a path leads, and what lies
in a directory.
-/

namespace Dimensional.Files

section Write

variable (files : Files) (place : Place) (text : String)

@[simp] theorem isFileAt_writeAt (other : Place) :
    (files.writeAt place text).isFileAt other = files.isFileAt other := by
  rw [isFileAt, textAt?_writeAt]
  split
  · rw [Option.isSome_map]
    rfl
  · rfl

@[simp] theorem isDirectoryAt_writeAt (other : Place) :
    (files.writeAt place text).isDirectoryAt other = files.isDirectoryAt other := by
  have keys : (files.writeAt place text).texts.map (·.1) = files.texts.map (·.1) := by
    simp only [writeAt, List.map_map]
    apply List.map_congr_left
    intro entry _
    simp only [Function.comp_apply]
    split <;> rfl
  have below (list : List (Place × String)) :
      (list.any fun entry => other.isPrefixOf entry.1 && other != entry.1) =
        (list.map (·.1)).any fun file => other.isPrefixOf file && other != file := by
    rw [List.any_map]
    rfl
  rw [isDirectoryAt, isDirectoryAt, below, below, keys]
  rfl

@[simp] theorem resolve_writeAt (path : String) :
    (files.writeAt place text).resolve path = files.resolve path := by
  have enters : (files.writeAt place text).enter = files.enter := by
    funext from_ name
    simp [enter]
  rw [resolve, resolve, enters]

@[simp] theorem resolve_write (path : String) (text : String) (other : String) :
    (files.write path text).resolve other = files.resolve other := by
  rw [write]
  split
  · exact resolve_writeAt files _ text other
  · rfl

end Write

section Read

variable {files : Files} {path other text old : String} {place : Place}

theorem read_eq_ok_iff :
    files.read path = .ok text ↔
      ∃ place, files.resolve path = .ok place ∧ files.textAt? place = some text := by
  rw [read]
  split
  · rename_i unresolved
    simp [unresolved]
  · rename_i place resolved
    simp only [resolved, Except.ok.injEq, exists_eq_left']
    split
    · rename_i found
      simp [found]
    · rename_i found
      simp [found]

theorem textAt?_write (resolved : files.resolve path = .ok place) (other : Place) :
    (files.write path text).textAt? other =
      if other = place then (files.textAt? other).map fun _ => text else files.textAt? other := by
  rw [write, resolved]
  exact textAt?_writeAt files place other text

theorem read_write_self (h : files.read path = .ok old) :
    (files.write path text).read path = .ok text := by
  obtain ⟨place, resolved, found⟩ := read_eq_ok_iff.mp h
  refine read_eq_ok_iff.mpr ⟨place, (resolve_write files path text path).trans resolved, ?_⟩
  rw [textAt?_write resolved, if_pos rfl, found]
  rfl

theorem read_congr {changed : Files} (resolved : changed.resolve path = files.resolve path)
    (same : ∀ place, files.resolve path = .ok place →
      changed.textAt? place = files.textAt? place) :
    changed.read path = files.read path := by
  rw [read, read, resolved]
  split
  · rfl
  · rename_i found
    rw [same _ found]

theorem read_write_of_ne (apart : files.resolve other ≠ files.resolve path) :
    (files.write path text).read other = files.read other := by
  refine read_congr (resolve_write files path text other) fun place found => ?_
  rw [write]
  split
  · rename_i target resolved
    rw [textAt?_writeAt, if_neg]
    rintro rfl
    exact apart (found.trans resolved.symm)
  · rfl

end Read

/-! Where a path leads. -/

/-- A name of something in a directory. -/
def IsName (name : String) : Prop :=
  name ≠ "" ∧ name ≠ "." ∧ name ≠ ".."

variable {files : Files} {path directory name : String} {place : Place}

theorem next_of_isName (h : IsName name) (place : Place) : next place name = place ++ [name] := by
  rw [next, if_neg (by simp [h.1, h.2.1]), if_neg h.2.2]

theorem eq_next_of_enter {place entered : Place} (h : files.enter place name = .ok entered) :
    entered = next place name := by
  rw [enter] at h
  split at h
  · contradiction
  · split at h
    · exact (Except.ok.inj h).symm
    · contradiction

/-- A path leads to something with the last name on it. -/
theorem getLast?_of_resolve (resolved : files.resolve path = .ok place)
    (last : (names path).getLast? = some name) (isName : IsName name) :
    place.getLast? = some name := by
  rw [resolve] at resolved
  split at resolved
  · contradiction
  · obtain ⟨front, shape⟩ := List.getLast?_eq_some_iff.mp last
    rw [shape, List.foldlM_append] at resolved
    cases found : front.foldlM files.enter (start path) with
    | error problem =>
        rw [found] at resolved
        contradiction
    | ok parent =>
        rw [found] at resolved
        change [name].foldlM files.enter parent = .ok place at resolved
        have entered : files.enter parent name = .ok place := by simpa using resolved
        rw [eq_next_of_enter entered, next_of_isName isName, List.getLast?_concat]

theorem names_ne_nil (path : String) : names path ≠ [] := by
  simp [names, Text.splitAt_ne_nil]

theorem getLast?_names_join (directory path : String) :
    (names (join directory path)).getLast? = (names path).getLast? := by
  have behind (front : List Char) :
      ((Text.splitAt '/' (front ++ '/' :: path.toList)).map String.ofList).getLast? =
        (names path).getLast? := by
    rw [Text.splitAt_append, List.map_append, List.getLast?_append]
    exact Option.or_of_isSome (List.getLast?_isSome.mpr (names_ne_nil path))
  rw [join]
  split
  · rfl
  · split
    · rename_i slash
      obtain ⟨front, shape⟩ := List.getLast?_eq_some_iff.mp slash
      rw [names, String.toList_append, shape, List.append_assoc, List.singleton_append]
      exact behind front
    · rw [names, String.toList_append, String.toList_append, List.append_assoc]
      exact behind directory.toList

/-! What lies in a directory. -/

section Children

variable {files : Files} {directory place : Place} {name : String}

/-- No file is a directory as well. -/
def IsTree (files : Files) : Prop :=
  ∀ place ∈ files.texts.map (·.1), files.isDirectoryAt place = false

instance (files : Files) : Decidable files.IsTree :=
  inferInstanceAs (Decidable (∀ place ∈ files.texts.map (·.1), files.isDirectoryAt place = false))

/-- Something lies in the directory under this name, or below it. -/
def Holds (files : Files) (directory : Place) (name : String) : Prop :=
  ∃ below, files.isFileAt (directory ++ name :: below) = true ∨
    directory ++ name :: below ∈ files.directories

theorem isFileAt_iff : files.isFileAt place = true ↔ place ∈ files.texts.map (·.1) := by
  rw [isFileAt, textAt?, List.lookup_isSome_iff, List.mem_map]
  constructor
  · rintro ⟨entry, mem, same⟩
    exact ⟨entry, mem, (eq_of_beq same).symm⟩
  · rintro ⟨entry, mem, rfl⟩
    exact ⟨entry, mem, beq_self_eq_true _⟩

theorem nameBelow?_eq_some_iff :
    nameBelow? directory place = some name ↔ ∃ below, place = directory ++ name :: below := by
  rw [nameBelow?]
  constructor
  · intro h
    split at h
    case isTrue isPrefix =>
      obtain ⟨rest, rfl⟩ := List.isPrefixOf_iff_prefix.mp isPrefix
      rw [List.drop_left] at h
      obtain ⟨below, rfl⟩ := List.head?_eq_some_iff.mp h
      exact ⟨below, rfl⟩
    case isFalse => contradiction
  · rintro ⟨below, rfl⟩
    rw [if_pos (List.isPrefixOf_iff_prefix.mpr (List.prefix_append directory _)), List.drop_left]
    rfl

theorem mem_children_iff : name ∈ files.children directory ↔ files.Holds directory name := by
  rw [children, List.mem_eraseDups, List.mem_filterMap]
  constructor
  · rintro ⟨place, mem, found⟩
    obtain ⟨below, rfl⟩ := nameBelow?_eq_some_iff.mp found
    exact ⟨below, (List.mem_append.mp mem).imp_left isFileAt_iff.mpr⟩
  · rintro ⟨below, lies⟩
    exact ⟨_, List.mem_append.mpr (lies.imp_left isFileAt_iff.mp),
      nameBelow?_eq_some_iff.mpr ⟨below, rfl⟩⟩

theorem nodup_eraseDups (names : List String) : names.eraseDups.Nodup := by
  cases names with
  | nil => exact List.nodup_nil
  | cons name rest =>
      rw [List.eraseDups_cons, List.nodup_cons, List.mem_eraseDups]
      exact ⟨by simp, nodup_eraseDups (rest.filter fun other => !other == name)⟩
termination_by names.length
decreasing_by
  have := List.length_filter_le (fun other => !other == name) rest
  simp only [List.length_cons]
  omega

theorem nodup_children (files : Files) (directory : Place) : (files.children directory).Nodup :=
  nodup_eraseDups _

end Children

end Dimensional.Files
