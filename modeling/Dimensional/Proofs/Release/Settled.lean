import Dimensional.Proofs.Release.Permission
import Dimensional.Proofs.Release.Rereading
import Mathlib.Data.List.Basic

/-!
What a run that passed leaves behind, and when a dry run that follows it passes too.
-/

namespace Dimensional.Release

open ProjectCall (IsVersion)

variable {root : String} {versions : Versions} {package other : Package} {dryRun : Bool}
  {registry : Registry} {files : Files} {text new last wanted : String} {packages : List Package}

/-- The registry answers, and lists none of the wanted versions, whatever the manifests hold. -/
def Registry.ListsNone (registry : Registry) (versions : Versions) (packages : List Package) :
    Prop :=
  ∀ package ∈ packages, ∀ wanted, versions.of? package = some wanted →
    ∀ text, registry.Lacks package text wanted

/-- The manifest declares the version that is wanted. -/
def Consistent (root : String) (versions : Versions) (files : Files) (package : Package) : Prop :=
  ∃ text wanted, versions.of? package = some wanted ∧
    files.read (Files.join root package.manifest) = .ok text ∧
    package.readVersion? text = some wanted

/-! What checks that passed made of the manifests. -/

/-- A text that declares the version stays; another is rewritten. -/
def Package.Corrects (package : Package) (wanted text new : String) : Prop :=
  package.readVersion? text = some wanted ∧ new = text ∨
    (∃ current, package.readVersion? text = some current ∧ current ≠ wanted) ∧
      package.writeVersion? text wanted = some new

/-- A second correction finds nothing to do, or does what the first did. -/
theorem Package.Corrects.eq (isVersion : IsVersion wanted.toList)
    (first : package.Corrects wanted text new) (second : package.Corrects wanted new last) :
    last = new := by
  obtain ⟨-, rfl⟩ | ⟨⟨current, declares, differs⟩, again⟩ := second
  · rfl
  · obtain ⟨same, rfl⟩ | ⟨-, written⟩ := first
    · exact absurd (Option.some.inj (declares.symm.trans same)) differs
    · rw [writeVersion?_writeVersion? isVersion written, written] at again
      exact (Option.some.inj again).symm

/-- The manifest is corrected between two states of the files. -/
def Corrected (root : String) (versions : Versions) (files changed : Files) (package : Package) :
    Prop :=
  ∃ text wanted new, versions.of? package = some wanted ∧
    files.read (Files.join root package.manifest) = .ok text ∧
    changed.read (Files.join root package.manifest) = .ok new ∧
    package.Corrects wanted text new

theorem Corrected.trans {changed after : Files}
    (first : Corrected root versions files changed package)
    (second : Corrected root versions changed after package) :
    Corrected root versions files after package := by
  obtain ⟨text, wanted, new, wants, read, left, corrects⟩ := first
  obtain ⟨text', wanted', new', wants', read', left', corrects'⟩ := second
  obtain rfl := Option.some.inj (wants.symm.trans wants')
  obtain rfl := Except.ok.inj (left.symm.trans read')
  obtain rfl := corrects.eq (Versions.isVersion_of? wants) corrects'
  exact ⟨text, wanted, _, wants, read, left', corrects⟩

/-- A check leaves the manifests of the other packages alone. -/
theorem read_check_of_ne (apart : other ≠ package) :
    (check root versions package dryRun registry files).files.read
        (Files.join root other.manifest) = files.read (Files.join root other.manifest) := by
  obtain same | ⟨text, wanted, new, read, -, written, -⟩ :=
    files_check_cases root versions package dryRun registry files
  · rw [same]
  · rw [written]
    obtain ⟨place, resolved, -⟩ := Files.read_eq_ok_iff.mp read
    refine Files.read_write_of_ne fun same => apart ?_
    exact Package.eq_of_resolve_manifest (same.trans resolved) resolved

theorem read_checkAll_of_notMem (unselected : other ∉ packages) :
    (checkAll root versions dryRun registry packages files).files.read
        (Files.join root other.manifest) = files.read (Files.join root other.manifest) := by
  induction packages generalizing files with
  | nil => rfl
  | cons package packages ih =>
      rw [List.mem_cons, not_or] at unselected
      have first : (check root versions package dryRun registry files).files.read
          (Files.join root other.manifest) = files.read (Files.join root other.manifest) :=
        read_check_of_ne unselected.1
      rw [checkAll]
      dsimp only
      split
      · exact first
      · exact (ih unselected.2).trans first

theorem corrected_of_check {report : Report}
    (h : (check root versions package dryRun registry files).result = .ok report)
    (passed : report.passed = true) :
    Corrected root versions files (check root versions package dryRun registry files).files
      package := by
  obtain ⟨text, current, wanted, inspects, -, outcome⟩ := inspects_of_passed h passed
  obtain ⟨rfl, same⟩ | ⟨differs, -, new, written, changed⟩ := outcome
  · rw [same]
    exact ⟨text, current, text, inspects.wants, inspects.read, inspects.read,
      .inl ⟨inspects.declares, rfl⟩⟩
  · rw [changed]
    exact ⟨text, wanted, new, inspects.wants, inspects.read, Files.read_write_self inspects.read,
      .inr ⟨⟨current, inspects.declares, differs⟩, written⟩⟩

theorem corrected_of_checkAll
    (h : (checkAll root versions dryRun registry packages files).result = .ok true)
    (mem : package ∈ packages) :
    Corrected root versions files (checkAll root versions dryRun registry packages files).files
      package := by
  induction packages generalizing files with
  | nil => contradiction
  | cons first packages ih =>
      obtain ⟨⟨report, ok, passed⟩, others⟩ := result_checkAll_cons_iff.mp h
      rw [checkAll_cons_of_ok ok]
      dsimp only
      by_cases later : package ∈ packages
      · have second := ih others later
        by_cases same : package = first
        · subst same
          exact (corrected_of_check ok passed).trans second
        · obtain ⟨text, wanted, new, wants, read, rest⟩ := second
          rw [read_check_of_ne same] at read
          exact ⟨text, wanted, new, wants, read, rest⟩
      · obtain rfl : package = first := (List.mem_cons.mp mem).resolve_right later
        obtain ⟨text, wanted, new, wants, read, left, corrects⟩ := corrected_of_check ok passed
        refine ⟨text, wanted, new, wants, read, ?_, corrects⟩
        exact (read_checkAll_of_notMem later).trans left

/-! Dry runs. -/

/-- A check finds a manifest consistent, whatever it may do. -/
theorem exists_report_of_consistent (consistent : Consistent root versions files package)
    (lacks : ∀ wanted, versions.of? package = some wanted →
      ∀ text, registry.Lacks package text wanted) :
    ∃ report, (check root versions package dryRun registry files).result = .ok report ∧
      report.passed = true := by
  obtain ⟨text, wanted, wants, read, declares⟩ := consistent
  have answers := isPublished_eq_false_iff.mpr (lacks wanted wants text)
  refine ⟨⟨package, wanted, wanted, false, .consistent⟩, ?_, rfl⟩
  rw [check, wants]
  dsimp only
  rw [read]
  dsimp only
  rw [declares]
  dsimp only
  rw [answers]
  dsimp only
  rw [settle_self]
  rfl

theorem checkAll_dryRun_of_consistent (none : registry.ListsNone versions packages)
    (all : ∀ package ∈ packages, Consistent root versions files package) :
    (checkAll root versions true registry packages files).result = .ok true := by
  induction packages with
  | nil => rfl
  | cons package packages ih =>
      rw [result_checkAll_cons_iff, files_check_dryRun]
      constructor
      · exact exists_report_of_consistent (all package List.mem_cons_self)
          (none package List.mem_cons_self)
      · exact ih (fun other mem => none other (List.mem_cons_of_mem _ mem))
          fun other mem => all other (List.mem_cons_of_mem _ mem)

theorem consistent_of_checkAll_dryRun
    (h : (checkAll root versions true registry packages files).result = .ok true)
    (mem : package ∈ packages) : Consistent root versions files package := by
  induction packages with
  | nil => contradiction
  | cons first packages ih =>
      obtain ⟨⟨report, ok, passed⟩, others⟩ := result_checkAll_cons_iff.mp h
      rw [files_check_dryRun] at others
      rcases List.mem_cons.mp mem with rfl | mem
      · obtain ⟨text, current, wanted, inspects, -, outcome⟩ := inspects_of_passed ok passed
        obtain ⟨rfl, -⟩ | ⟨-, notDry, -⟩ := outcome
        · exact ⟨text, current, inspects.wants, inspects.read, inspects.declares⟩
        · contradiction
      · exact ih others mem

/-! A run, and a dry run after it. -/

def Options.asDryRun (options : Options) : Options :=
  { options with dryRun := true }

/-- The selected manifests declare what is wanted, and a dry run finds nothing to do. -/
structure IsSettled (options : Options) (registry : Registry) (versions : Versions)
    (files : Files) : Prop where
  consistent : ∀ package ∈ options.packages, Consistent options.root versions files package
  passes : (run options.asDryRun registry files).result = .ok true
  unchanged : (run options.asDryRun registry files).files = files

/-- If the manifest is rewritten, the wanted version is read from the new text. -/
def Rereads (root : String) (versions : Versions) (files : Files) (package : Package) : Prop :=
  ∀ text wanted new, versions.of? package = some wanted →
    files.read (Files.join root package.manifest) = .ok text →
    package.readVersion? text ≠ some wanted → package.writeVersion? text wanted = some new →
    package.readVersion? new = some wanted

/-- The version file asks for the same versions of the selected packages. -/
def AsksAlike (options : Options) (versions : Versions) (files : Files) : Prop :=
  ∃ versions', readVersions files options.versionPath = .ok versions' ∧
    ∀ package ∈ options.packages, versions'.of? package = versions.of? package

/-- A corrected manifest is consistent exactly if it is read as it was written. -/
theorem Corrected.consistent_iff {changed : Files}
    (h : Corrected root versions files changed package) :
    Consistent root versions changed package ↔ Rereads root versions files package := by
  obtain ⟨text, wanted, new, wants, read, left, corrects⟩ := h
  constructor
  · rintro ⟨text', wanted', wants', read', declares⟩ _ _ last wants'' read'' differs written
    obtain rfl := Option.some.inj (wants.symm.trans wants')
    obtain rfl := Option.some.inj (wants.symm.trans wants'')
    obtain rfl := Except.ok.inj (left.symm.trans read')
    obtain rfl := Except.ok.inj (read.symm.trans read'')
    obtain ⟨same, -⟩ | ⟨-, written'⟩ := corrects
    · exact absurd same differs
    · obtain rfl := Option.some.inj (written'.symm.trans written)
      exact declares
  · intro rereads
    refine ⟨new, wanted, wants, left, ?_⟩
    obtain ⟨same, rfl⟩ | ⟨⟨current, declares, differs⟩, written⟩ := corrects
    · exact same
    · refine rereads text wanted new wants read ?_ written
      rw [declares]
      exact fun same => differs (Option.some.inj same)

section Run

variable {options : Options}

theorem files_run_dryRun : (run options.asDryRun registry files).files = files :=
  (run_keepsToManifests options.asDryRun registry files).dryRun rfl

theorem passes_dryRun_iff (none : registry.ListsNone versions options.packages)
    (consistent : ∀ package ∈ options.packages, Consistent options.root versions files package) :
    (run options.asDryRun registry files).result = .ok true ↔ AsksAlike options versions files := by
  constructor
  · intro passed
    obtain ⟨problem, failed, -⟩ | ⟨versions', read, result, -⟩ :=
      run_cases options.asDryRun registry files
    · rw [failed] at passed
      contradiction
    · refine ⟨versions', read, fun package mem => ?_⟩
      obtain ⟨text, wanted, wants, found, declares⟩ := consistent package mem
      obtain ⟨text', wanted', wants', found', declares'⟩ :=
        consistent_of_checkAll_dryRun (result ▸ passed) mem
      obtain rfl := Except.ok.inj (found.symm.trans found')
      rw [wants, wants', ← declares, ← declares']
  · rintro ⟨versions', read, alike⟩
    refine Eq.trans (@run_of_ok options.asDryRun registry files _ read).1 ?_
    apply checkAll_dryRun_of_consistent
    · intro package mem wanted wants
      exact none package mem wanted ((alike package mem).symm.trans wants)
    · intro package mem
      obtain ⟨text, wanted, wants, found, declares⟩ := consistent package mem
      exact ⟨text, wanted, (alike package mem).trans wants, found, declares⟩

theorem resolve_run (path : String) :
    (run options registry files).files.resolve path = files.resolve path := by
  obtain ⟨-, -, same⟩ | ⟨versions, -, -, changed, -⟩ := run_cases options registry files
  · rw [same]
  · rw [changed]
    exact (onlyRewrites_checkAll ..).resolve path

/-- A version file that is no selected manifest is read as before. -/
theorem readVersions_run (apart : ∀ package ∈ options.packages,
      files.resolve options.versionPath ≠
        files.resolve (Files.join options.root package.manifest)) :
    readVersions (run options registry files).files options.versionPath =
      readVersions files options.versionPath := by
  have same : (run options registry files).files.read options.versionPath =
      files.read options.versionPath := by
    refine Files.read_congr (resolve_run _) fun place resolved => ?_
    by_cases kept : (run options registry files).files.textAt? place = files.textAt? place
    · exact kept
    · obtain ⟨-, -, package, mem, -, -, -, manifest, -⟩ :=
        (run_keepsToManifests options registry files).rewritten place kept
      exact absurd (resolved.trans manifest.symm) (apart package mem)
  rw [readVersions, readVersions, same]

/-- The search in a manifest that does not declare the wanted version leads to what it declares. -/
def Searchable (root : String) (versions : Versions) (files : Files) (package : Package) : Prop :=
  ∀ text, files.read (Files.join root package.manifest) = .ok text →
    package.readVersion? text = versions.of? package ∨ package.FindsDeclaration text

theorem Corrected.rereads {changed : Files}
    (h : Corrected root versions files changed package)
    (searchable : Searchable root versions files package) :
    Rereads root versions files package := by
  intro text wanted new wants read differs written
  obtain ⟨text', wanted', new', wants', read', -, corrects⟩ := h
  obtain rfl := Option.some.inj (wants.symm.trans wants')
  obtain rfl := Except.ok.inj (read.symm.trans read')
  obtain ⟨same, -⟩ | ⟨⟨current, declares, -⟩, -⟩ := corrects
  · exact absurd same differs
  · obtain same | finds := searchable text read
    · exact absurd (same.trans wants) differs
    · exact Package.readVersion?_writeVersion? finds (Versions.isVersion_of? wants) declares written

/-- What a run that passed is worth. -/
structure Settles (options : Options) (registry : Registry) (versions : Versions)
    (files : Files) : Prop where
  /-- All is settled exactly if what was written is read again, and is still asked for. -/
  settled_iff : IsSettled options registry versions (run options registry files).files ↔
    (∀ package ∈ options.packages, Rereads options.root versions files package) ∧
      AsksAlike options versions (run options registry files).files
  /-- It is, if the search for the version leads to its declaration in every manifest. -/
  settled : (∀ package ∈ options.packages, Searchable options.root versions files package) →
    (∀ package ∈ options.packages, files.resolve options.versionPath ≠
      files.resolve (Files.join options.root package.manifest)) →
    IsSettled options registry versions (run options registry files).files

theorem run_settles (read : readVersions files options.versionPath = .ok versions)
    (none : registry.ListsNone versions options.packages)
    (passed : (run options registry files).result = .ok true) :
    Settles options registry versions files := by
  have corrected (package) (mem : package ∈ options.packages) :
      Corrected options.root versions files (run options registry files).files package := by
    obtain ⟨result, changed, -⟩ := @run_of_ok options registry files _ read
    rw [changed]
    exact corrected_of_checkAll (result ▸ passed) mem
  have settled_iff : IsSettled options registry versions (run options registry files).files ↔
      (∀ package ∈ options.packages, Rereads options.root versions files package) ∧
        AsksAlike options versions (run options registry files).files := by
    constructor
    · rintro ⟨consistent, passes, -⟩
      exact ⟨fun package mem => (corrected package mem).consistent_iff.mp (consistent package mem),
        (passes_dryRun_iff none consistent).mp passes⟩
    · rintro ⟨rereads, alike⟩
      have consistent (package) (mem : package ∈ options.packages) :=
        (corrected package mem).consistent_iff.mpr (rereads package mem)
      exact ⟨consistent, (passes_dryRun_iff none consistent).mpr alike, files_run_dryRun⟩
  refine ⟨settled_iff, fun searchable apart => settled_iff.mpr ⟨?_, ?_⟩⟩
  · exact fun package mem => (corrected package mem).rereads (searchable package mem)
  · exact ⟨versions, (readVersions_run apart).trans read, fun _ _ => rfl⟩

end Run

/-! One package, at the version 0.2.0. -/

section Python

def pythonOnly : Options :=
  ⟨false, false, [.python], "VERSION.toml", "."⟩

def pythonVersions : Versions :=
  ⟨0, 2, [("python", 0)]⟩

/-- A version file that asks for this version, and a manifest. -/
def pythonProject (manifest : String) : Files :=
  .ofPaths [("VERSION.toml", "major = 0\nminor = 2\n\n[patch]\npython = 0\n"),
    ("pyproject.toml", manifest)] []

theorem listsNone_offline (versions : Versions) (packages : List Package) :
    Registry.offline.ListsNone versions packages :=
  fun _ _ _ _ _ _ _ => ⟨[], rfl, List.not_mem_nil⟩

theorem run_settles_plainManifest :
    IsSettled pythonOnly .offline pythonVersions
      (run pythonOnly .offline (pythonProject Package.plainManifest)).files := by
  have read : readVersions (pythonProject Package.plainManifest) pythonOnly.versionPath =
      .ok pythonVersions := by decide +kernel
  have passed : (run pythonOnly .offline (pythonProject Package.plainManifest)).result =
      .ok true := by decide +kernel
  have manifest : (pythonProject Package.plainManifest).read
      (Files.join pythonOnly.root Package.python.manifest) = .ok Package.plainManifest := by
    decide +kernel
  have apart : (pythonProject Package.plainManifest).resolve pythonOnly.versionPath ≠
      (pythonProject Package.plainManifest).resolve
        (Files.join pythonOnly.root Package.python.manifest) := by decide +kernel
  refine (run_settles read (listsNone_offline _ _) passed).settled ?_ ?_
  · intro package mem text found
    obtain rfl := List.mem_singleton.mp mem
    obtain rfl := Except.ok.inj (manifest.symm.trans found)
    exact .inr Package.findsDeclaration_plainManifest
  · intro package mem
    obtain rfl := List.mem_singleton.mp mem
    exact apart

/-- A text in quotes holds a line that looks like a declaration. -/
def quotingManifest (quoted : String) : String :=
  "[project]\ndescription = \"\"\"\nversion = \"" ++ quoted ++ "\"\n\"\"\"\nversion = \"0.1.0\"\n"

/-- The run passes, but it has changed the text in quotes. -/
theorem run_quotingManifest_inconsistent :
    readVersions (pythonProject (quotingManifest "9.9.9")) pythonOnly.versionPath =
        .ok pythonVersions ∧
      Registry.offline.ListsNone pythonVersions pythonOnly.packages ∧
      (run pythonOnly .offline (pythonProject (quotingManifest "9.9.9"))).result = .ok true ∧
      ¬Consistent pythonOnly.root pythonVersions
        (run pythonOnly .offline (pythonProject (quotingManifest "9.9.9"))).files .python ∧
      (run pythonOnly.asDryRun .offline
        (run pythonOnly .offline (pythonProject (quotingManifest "9.9.9"))).files).result =
          .ok false := by
  have changed : (run pythonOnly .offline (pythonProject (quotingManifest "9.9.9"))).files =
      pythonProject (quotingManifest "0.2.0") := by decide +kernel
  rw [changed]
  refine ⟨by decide +kernel, listsNone_offline _ _, by decide +kernel, ?_, by decide +kernel⟩
  have left : (pythonProject (quotingManifest "0.2.0")).read
      (Files.join pythonOnly.root Package.python.manifest) = .ok (quotingManifest "0.2.0") := by
    decide +kernel
  have declares : Package.python.readVersion? (quotingManifest "0.2.0") = some "0.1.0" := by
    decide +kernel
  have wants : pythonVersions.of? .python = some "0.2.0" := by decide +kernel
  rintro ⟨text, wanted, wants', read, declares'⟩
  obtain rfl := Except.ok.inj (left.symm.trans read)
  rw [wants, ← declares', declares] at wants'
  exact absurd wants' (by decide)

end Python

end Dimensional.Release
