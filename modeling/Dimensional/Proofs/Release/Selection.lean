import Dimensional.Release.Program
import Mathlib.Data.List.Infix
import Mathlib.Data.List.Nodup

/-!
The packages that a command line selects.  Those that are listed are those that are selected, but
one is listed again where its flag comes back behind the flag of another; a run checks what is
listed.
-/

namespace Dimensional.Release.Options

/-! Argument lists, item by item. -/

section Items

inductive Item where
  | dryRun
  | offline
  | all
  | package (package : Package)
  | versionFile (path : String)
  | root (directory : String)

namespace Item

/-- The arguments that stand for an item; two of the items take the argument behind the flag. -/
inductive IsSpelled : List String → Item → Prop
  | dryRun {flag : String} (name : flag = "--dry-run" ∨ flag = "--dryrun") :
      IsSpelled [flag] dryRun
  | offline : IsSpelled ["--offline"] offline
  | all : IsSpelled ["--all"] all
  | package (package : Package) : IsSpelled ["--" ++ package.key] (.package package)
  | versionFile {flag : String} (name : flag = "--version-file" ∨ flag = "--version_file")
      (path : String) : IsSpelled [flag, path] (versionFile path)
  | root (directory : String) : IsSpelled ["--root", directory] (root directory)

def package? : Item → Option Package
  | .package chosen => some chosen
  | _ => none

end Item

/-- The arguments stand for these items, one behind the other. -/
inductive Spells : List String → List Item → Prop
  | nil : Spells [] []
  | cons {first rest : List String} {item : Item} {items : List Item}
      (spelled : item.IsSpelled first) (more : Spells rest items) :
      Spells (first ++ rest) (item :: items)

def Draft.add (draft : Draft) : Item → Draft
  | .dryRun => { draft with options.dryRun := true }
  | .offline => { draft with options.offline := true }
  | .all => { draft with all := true }
  | .package package => draft.select package
  | .versionFile path => { draft with options.versionFile := path }
  | .root directory => { draft with options.root := directory }

variable {argument : String} {arguments rest : List String} {draft next made : Draft} {item : Item}

theorem isVersionFile_iff :
    isVersionFile argument = true ↔ argument = "--version-file" ∨ argument = "--version_file" := by
  simp [isVersionFile]

theorem spelled_of_flag? (h : flag? argument draft = some next) :
    ∃ item : Item, item.IsSpelled [argument] ∧ next = draft.add item := by
  unfold flag? at h
  split at h
  all_goals first | contradiction | obtain rfl := Option.some.inj h
  · exact ⟨_, .dryRun (.inl rfl), rfl⟩
  · exact ⟨_, .dryRun (.inr rfl), rfl⟩
  · exact ⟨_, .offline, rfl⟩
  · exact ⟨_, .all, rfl⟩
  · exact ⟨_, .package .rust, rfl⟩
  · exact ⟨_, .package .python, rfl⟩
  · exact ⟨_, .package .cpp, rfl⟩

theorem readFrom_of_flag? (known : flag? argument draft = some next)
    (noFile : isVersionFile argument = false) (noRoot : argument ≠ "--root")
    (rest : List String) : readFrom draft (argument :: rest) = readFrom next rest := by
  cases rest with
  | nil => simp [readFrom, noFile, noRoot, known]
  | cons second rest => simp [readFrom, noFile, noRoot, known]

theorem readFrom_of_isSpelled (spelled : item.IsSpelled arguments) (draft : Draft)
    (rest : List String) : readFrom draft (arguments ++ rest) = readFrom (draft.add item) rest := by
  cases spelled with
  | dryRun name => rcases name with rfl | rfl <;> exact readFrom_of_flag? rfl rfl (by decide) rest
  | offline => exact readFrom_of_flag? rfl rfl (by decide) rest
  | all => exact readFrom_of_flag? rfl rfl (by decide) rest
  | package package => cases package <;> exact readFrom_of_flag? rfl rfl (by decide) rest
  | versionFile name path => exact if_pos (isVersionFile_iff.mpr name)
  | root directory => exact (if_neg (by decide)).trans (if_pos rfl)

theorem readFrom_eq_ok_iff : readFrom draft arguments = .ok made ↔
    ∃ items, Spells arguments items ∧ made = items.foldl Draft.add draft := by
  constructor
  · intro h
    fun_induction readFrom draft arguments with
    | case1 draft =>
        obtain rfl := Except.ok.inj h
        exact ⟨[], .nil, rfl⟩
    | case2 => contradiction
    | case3 => contradiction
    | case4 draft argument _ _ next known =>
        obtain rfl := Except.ok.inj h
        obtain ⟨item, spelled, rfl⟩ := spelled_of_flag? known
        exact ⟨[item], .cons spelled .nil, rfl⟩
    | case5 => contradiction
    | case6 draft argument path rest isFile ih =>
        obtain ⟨items, spells, rfl⟩ := ih h
        exact ⟨_, .cons (.versionFile (isVersionFile_iff.mp isFile) path) spells, rfl⟩
    | case7 draft directory rest _ ih =>
        obtain ⟨items, spells, rfl⟩ := ih h
        exact ⟨_, .cons (.root directory) spells, rfl⟩
    | case8 draft argument second rest _ _ next known ih =>
        obtain ⟨items, spells, rfl⟩ := ih h
        obtain ⟨item, spelled, rfl⟩ := spelled_of_flag? known
        exact ⟨item :: items, .cons spelled spells, rfl⟩
    | case9 => contradiction
  · rintro ⟨items, spells, rfl⟩
    induction spells generalizing draft with
    | nil => rfl
    | cons spelled _ ih => rw [readFrom_of_isSpelled spelled, ih, List.foldl_cons]

end Items

/-! The packages among the items. -/

section Packages

variable {items : List Item} {packages : List Package} {package : Package}

theorem packages_foldl_add (items : List Item) (draft : Draft) :
    (items.foldl Draft.add draft).options.packages =
      draft.options.packages ++ items.filterMap Item.package? := by
  induction items generalizing draft with
  | nil => simp
  | cons item items ih =>
      rw [List.foldl_cons, ih, List.filterMap_cons]
      cases item <;> simp [Draft.add, Draft.select, Item.package?]

theorem all_foldl_add (items : List Item) (draft : Draft) :
    (items.foldl Draft.add draft).all = true ↔ draft.all = true ∨ .all ∈ items := by
  induction items generalizing draft with
  | nil => simp
  | cons item items ih => cases item <;> simp [ih, Draft.add, Draft.select]

theorem map_filterMap_package? (items : List Item) :
    ((items.filterMap Item.package?).map Item.package).Sublist items := by
  induction items with
  | nil => exact .slnil
  | cons item items ih =>
      cases item with
      | package chosen => exact ih.cons_cons _
      | _ => exact ih.cons _

theorem sublist_filterMap_package? :
    packages.Sublist (items.filterMap Item.package?) ↔
      (packages.map Item.package).Sublist items := by
  constructor
  · exact fun h => (h.map Item.package).trans (map_filterMap_package? items)
  · intro h
    have kept : (packages.map Item.package).filterMap Item.package? = packages := by
      rw [List.filterMap_map]
      exact List.filterMap_some
    exact kept ▸ h.filterMap Item.package?

theorem mem_filterMap_package? :
    package ∈ items.filterMap Item.package? ↔ .package package ∈ items := by
  rw [← List.singleton_sublist, sublist_filterMap_package?, List.map_singleton,
    List.singleton_sublist]

/-- A package comes back behind another. -/
def Recurs (packages : List Package) : Prop :=
  ∃ package other, other ≠ package ∧ [package, other, package].Sublist packages

theorem recurs_cons_iff :
    Recurs (package :: packages) ↔
      (∃ other, other ≠ package ∧ [other, package].Sublist packages) ∨ Recurs packages := by
  constructor
  · rintro ⟨first, other, apart, sub⟩
    cases sub with
    | cons _ sub => exact .inr ⟨first, other, apart, sub⟩
    | cons_cons _ sub => exact .inl ⟨other, apart, sub⟩
  · rintro (⟨other, apart, sub⟩ | ⟨first, other, apart, sub⟩)
    · exact ⟨package, other, apart, sub.cons_cons _⟩
    · exact ⟨first, other, apart, sub.cons _⟩

/-- What stands next to its like may go. -/
theorem recurs_cons_cons_self_iff :
    Recurs (package :: package :: packages) ↔ Recurs (package :: packages) := by
  refine ⟨fun h => ?_, fun h => recurs_cons_iff.mpr (.inr h)⟩
  obtain ⟨other, apart, sub⟩ | h := recurs_cons_iff.mp h
  · cases sub with
    | cons _ sub => exact recurs_cons_iff.mpr (.inl ⟨other, apart, sub⟩)
    | cons_cons => contradiction
  · exact h

theorem recurs_cons_cons_iff {next : Package} (apart : package ≠ next) :
    Recurs (package :: next :: packages) ↔
      package ∈ next :: packages ∨ Recurs (next :: packages) := by
  rw [recurs_cons_iff]
  apply or_congr_left
  constructor
  · rintro ⟨other, -, sub⟩
    exact sub.mem (by simp)
  · intro mem
    have later : package ∈ packages := (List.mem_cons.mp mem).resolve_left apart
    exact ⟨next, apart.symm, (List.singleton_sublist.mpr later).cons_cons _⟩

theorem not_recurs_of_length_le (short : packages.length ≤ 2) : ¬Recurs packages := by
  rintro ⟨_, _, -, sub⟩
  exact absurd (sub.length_le.trans short) (by simp)

theorem nodup_dropRepeats_iff : (dropRepeats packages).Nodup ↔ ¬Recurs packages := by
  fun_induction dropRepeats packages with
  | case1 package packages ih => rw [recurs_cons_cons_self_iff, ih]
  | case2 package next packages apart ih =>
      rw [List.nodup_cons, mem_dropRepeats, ih, recurs_cons_cons_iff apart, not_or]
  | case3 packages short =>
      cases packages with
      | nil => exact iff_of_true List.nodup_nil (not_recurs_of_length_le (by simp))
      | cons first rest =>
          cases rest with
          | nil => exact iff_of_true (List.nodup_singleton _) (not_recurs_of_length_le (by simp))
          | cons second rest => exact absurd rfl (short first second rest)

/-- All packages are selected, or no package is named, or this one is. -/
def IsSelected (items : List Item) (package : Package) : Prop :=
  .all ∈ items ∨ (∀ other, .package other ∉ items) ∨ .package package ∈ items

/-- The flag of a package comes back behind the flag of another. -/
def Returns (items : List Item) : Prop :=
  ∃ package other, other ≠ package ∧
    [.package package, .package other, .package package].Sublist items

theorem recurs_filterMap_iff : Recurs (items.filterMap Item.package?) ↔ Returns items := by
  simp only [Recurs, Returns, sublist_filterMap_package?, List.map_cons, List.map_nil]

theorem mem_all (package : Package) : package ∈ Package.all := by
  cases package <;> decide

/-- Either all packages are listed, or those that are named. -/
theorem packages_finish_cases (items : List Item) :
    (.all ∈ items ∨ ∀ package, .package package ∉ items) ∧
        (items.foldl Draft.add .initial).finish.packages = Package.all ∨
      .all ∉ items ∧ (∃ package, .package package ∈ items) ∧
        (items.foldl Draft.add .initial).finish.packages =
          dropRepeats (items.filterMap Item.package?) := by
  have named : (items.foldl Draft.add .initial).options.packages =
      items.filterMap Item.package? := packages_foldl_add items .initial
  have takesAll : ((items.foldl Draft.add .initial).all ||
      (items.foldl Draft.add .initial).options.packages.isEmpty) = true ↔
        .all ∈ items ∨ ∀ package, .package package ∉ items := by
    rw [Bool.or_eq_true, all_foldl_add, named, List.isEmpty_iff,
      List.eq_nil_iff_forall_not_mem]
    simp only [mem_filterMap_package?, Draft.initial, Bool.false_eq_true, false_or]
  by_cases everything : .all ∈ items ∨ ∀ package, .package package ∉ items
  · refine .inl ⟨everything, ?_⟩
    rw [Draft.finish, if_pos (takesAll.mpr everything)]
    rfl
  · have some := not_or.mp everything
    refine .inr ⟨some.1, by simpa using some.2, ?_⟩
    rw [Draft.finish, if_neg (mt takesAll.mp everything), named]

/-- The selected packages are listed, and each of them once unless its flag returns. -/
structure Lists (items : List Item) (packages : List Package) : Prop where
  mem_iff : ∀ package, package ∈ packages ↔ IsSelected items package
  nodup_iff : packages.Nodup ↔ .all ∈ items ∨ ¬Returns items

theorem lists_finish (items : List Item) :
    Lists items (items.foldl Draft.add .initial).finish.packages := by
  obtain ⟨everything, listed⟩ | ⟨notAll, ⟨named, mem⟩, listed⟩ := packages_finish_cases items
  · rw [listed]
    refine ⟨fun package => iff_of_true (mem_all package) ?_, iff_of_true (by decide) ?_⟩
    · exact everything.imp_right .inl
    · refine everything.imp_right ?_
      rintro none ⟨package, other, -, sub⟩
      exact none package (sub.mem (by simp))
  · rw [listed]
    refine ⟨fun package => ?_, ?_⟩
    · rw [mem_dropRepeats, mem_filterMap_package?]
      refine ⟨fun chosen => .inr (.inr chosen), ?_⟩
      rintro (all | none | chosen)
      · exact absurd all notAll
      · exact absurd mem (none named)
      · exact chosen
    · rw [nodup_dropRepeats_iff, recurs_filterMap_iff, or_iff_right notAll]

end Packages

end Dimensional.Release.Options

namespace Dimensional.Release

/-! The checks of a run. -/

section Checks

/-- What comes of checking these packages, one after the other and each in the files that the one
before left; only the last check may be stopped. -/
inductive Checks (root : String) (versions : Versions) (dryRun : Bool) (registry : Registry) :
    (checked : List Package) → Files → Outcome Bool → Prop
  | done (files : Files) : Checks root versions dryRun registry [] files ⟨.ok true, files, [], []⟩
  | stopped {package : Package} {files : Files} {first : Outcome Report} {problem : Problem}
      (made : check root versions package dryRun registry files = first)
      (failed : first.result = .error problem) :
      Checks root versions dryRun registry [package] files
        ⟨.error problem, first.files, first.calls, first.log⟩
  | reported {package : Package} {checked : List Package} {files : Files}
      {first : Outcome Report} {report : Report} {others : Outcome Bool}
      (made : check root versions package dryRun registry files = first)
      (ok : first.result = .ok report)
      (more : Checks root versions dryRun registry checked first.files others) :
      Checks root versions dryRun registry (package :: checked) files
        ⟨others.result.map (report.passed && ·), others.files, first.calls ++ others.calls,
          first.log ++ others.log⟩

/-- The packages are checked up to the first check that is stopped. -/
theorem checks_checkAll (root : String) (versions : Versions) (dryRun : Bool) (registry : Registry)
    (packages : List Package) (files : Files) :
    ∃ checked, checked <+: packages ∧
      Checks root versions dryRun registry checked files
        (checkAll root versions dryRun registry packages files) ∧
      ∀ passed, (checkAll root versions dryRun registry packages files).result = .ok passed →
        checked = packages := by
  induction packages generalizing files with
  | nil => exact ⟨[], List.prefix_rfl, .done files, fun _ _ => rfl⟩
  | cons package packages ih =>
      rw [checkAll]
      dsimp only
      split
      case h_1 problem failed =>
        refine ⟨[package], List.prefix_append [package] packages, .stopped rfl failed, ?_⟩
        exact fun _ ok => absurd ok (by simp)
      case h_2 report ok =>
        obtain ⟨checked, front, checks, whole⟩ :=
          ih (check root versions package dryRun registry files).files
        refine ⟨package :: checked, (List.prefix_cons_inj package).mpr front,
          .reported rfl ok checks, fun passed all => ?_⟩
        cases others : (checkAll root versions dryRun registry packages
          (check root versions package dryRun registry files).files).result with
        | error problem =>
            rw [others] at all
            contradiction
        | ok otherPassed => rw [whole otherPassed others]

/-- What is logged before the first check. -/
def Options.opening (options : Options) : List Log.Line :=
  if options.dryRun then [dryRunLine] else []

/-- A run that can read its versions checks packages that are listed, as often as they are listed
and in this order; it checks all of them unless a check is stopped. -/
structure ChecksListed (options : Options) (registry : Registry) (files : Files) : Prop where
  unread : ∀ problem, readVersions files options.versionPath = .error problem →
    run options registry files = ⟨.error problem, files, [], options.opening⟩
  listed : ∀ versions, readVersions files options.versionPath = .ok versions →
    ∃ checked outcome, checked <+: options.packages ∧
      Checks options.root versions options.dryRun registry checked files outcome ∧
      run options registry files = { outcome with log := options.opening ++ outcome.log } ∧
      (options.packages.Nodup → checked.Nodup) ∧
      ∀ passed, outcome.result = .ok passed → checked = options.packages

theorem run_checksListed (options : Options) (registry : Registry) (files : Files) :
    ChecksListed options registry files where
  unread problem unread := by
    delta run
    rw [unread]
    rfl
  listed versions read := by
    obtain ⟨checked, front, checks, whole⟩ :=
      checks_checkAll options.root versions options.dryRun registry options.packages files
    refine ⟨checked, _, front, checks, ?_, front.nodup, whole⟩
    delta run
    rw [read]
    rfl

end Checks

namespace Options

variable {arguments : List String} {options : Options}

theorem read_eq_ok_iff : read arguments = .ok options ↔
    ∃ items, Spells arguments items ∧ options = (items.foldl Draft.add .initial).finish := by
  rw [read]
  constructor
  · intro h
    cases drafted : readFrom .initial arguments with
    | error problem =>
        rw [drafted] at h
        contradiction
    | ok draft =>
        rw [drafted] at h
        obtain ⟨items, spells, rfl⟩ := readFrom_eq_ok_iff.mp drafted
        exact ⟨items, spells, (Except.ok.inj h).symm⟩
  · rintro ⟨items, spells, rfl⟩
    rw [readFrom_eq_ok_iff.mpr ⟨items, spells, rfl⟩]
    rfl

/-- The options that arguments stand for list the selected packages, and a run checks what they
list. -/
theorem lists_of_read (h : read arguments = .ok options) :
    (∃ items, Spells arguments items) ∧
      (∀ items, Spells arguments items → Lists items options.packages) ∧
      ∀ registry files, ChecksListed options registry files := by
  obtain ⟨items, spells, -⟩ := read_eq_ok_iff.mp h
  refine ⟨⟨items, spells⟩, fun other spelled => ?_, run_checksListed options⟩
  obtain rfl := Except.ok.inj (h.symm.trans (read_eq_ok_iff.mpr ⟨other, spelled, rfl⟩))
  exact lists_finish other

/-- The flag of another package is a directory here. -/
theorem lists_of_read_swallowedFlag :
    read ["--cpp", "--root", "--rust", "--cpp"] =
        .ok ⟨false, false, [.cpp], "VERSION.toml", "--rust"⟩ ∧
      Lists [.package .cpp, .root "--rust", .package .cpp] [.cpp] := by
  have accepted : read ["--cpp", "--root", "--rust", "--cpp"] =
      .ok ⟨false, false, [.cpp], "VERSION.toml", "--rust"⟩ := by decide +kernel
  refine ⟨accepted, (lists_of_read accepted).2.1 _ ?_⟩
  exact .cons (.package .cpp) (.cons (.root "--rust") (.cons (.package .cpp) .nil))

def returningOptions : Options :=
  ⟨false, false, [.rust, .cpp, .rust], "VERSION.toml", "."⟩

def returningProject : Files :=
  .ofPaths [("VERSION.toml", "major = 0\nminor = 2\n[patch]\nrust = 0\ncpp = 0\n"),
    ("Cargo.toml", "[workspace.package]\nversion = \"0.2.0\"\n"),
    ("cpp/CMakeLists.txt", "project(dv VERSION 0.2.0)\n")] []

/-- A package whose flag returns is listed twice, and checked twice. -/
theorem read_returningFlag :
    read ["--rust", "--cpp", "--rust"] = .ok returningOptions ∧
      ¬returningOptions.packages.Nodup ∧
      (run returningOptions .offline returningProject).result = .ok true ∧
      (run returningOptions .offline returningProject).log.count
        ⟨.info, "--- Rust version check ---"⟩ = 2 := by
  refine ⟨by decide +kernel, by decide, by decide +kernel, by decide +kernel⟩

end Options

end Dimensional.Release
