import Dimensional.Proofs.Release.Manifest
import Dimensional.Release.Program

/-!
What checks do to files.  A check either leaves every file as it is or writes a version to the
manifest that it looked at, and it does that only where it is permitted; a run does what its checks
do.
-/

namespace Dimensional.Files

@[simp] theorem directories_write (files : Files) (path text : String) :
    (files.write path text).directories = files.directories := by
  rw [write]
  split <;> rfl

end Dimensional.Files

namespace Dimensional.Release

variable {root : String} {versions : Versions} {package : Package} {dryRun : Bool}
  {registry : Registry} {files changed last : Files} {text current wanted new : String}

/-- The registry answers, and does not list the version, if it is asked for it. -/
def Registry.Lacks (registry : Registry) (package : Package) (text wanted : String) : Prop :=
  ∀ name, package.registryName? text = some name →
    ∃ listed, registry.versions package name = .ok listed ∧ wanted ∉ listed

theorem isPublished_eq_false_iff :
    isPublished registry package text wanted = .ok false ↔
      registry.Lacks package text wanted := by
  rw [isPublished, Registry.Lacks]
  cases package.registryName? text with
  | none => simp
  | some name => cases found : registry.versions package name <;> simp [Except.map, found]

/-- What a check learns before it decides about a manifest. -/
structure Inspects (root : String) (versions : Versions) (package : Package)
    (registry : Registry) (files : Files) (text current wanted : String) (published : Bool) :
    Prop where
  wants : versions.of? package = some wanted
  read : files.read (Files.join root package.manifest) = .ok text
  declares : package.readVersion? text = some current
  answers : isPublished registry package text wanted = .ok published

/-- A check stops and leaves the files alone, or it reports what it settled. -/
theorem check_cases (root : String) (versions : Versions) (package : Package) (dryRun : Bool)
    (registry : Registry) (files : Files) :
    (∃ problem calls,
      check root versions package dryRun registry files = .stopped problem files calls) ∨
    ∃ text current wanted published action changed,
      Inspects root versions package registry files text current wanted published ∧
        settle package dryRun (Files.join root package.manifest) text current wanted published
          files = .ok (action, changed) ∧
        check root versions package dryRun registry files =
          .reported ⟨package, current, wanted, published, action⟩ changed
            (lookups package text) := by
  rw [check]
  split
  · exact .inl ⟨_, _, rfl⟩
  · rename_i wanted wants
    dsimp only
    split
    · exact .inl ⟨_, _, rfl⟩
    · rename_i text read
      split
      · exact .inl ⟨_, _, rfl⟩
      · rename_i current declares
        split
        · exact .inl ⟨_, _, rfl⟩
        · rename_i published answered
          split
          · exact .inl ⟨_, _, rfl⟩
          · rename_i action changed settled
            exact .inr ⟨text, current, wanted, published, action, changed,
              ⟨wants, read, declares, answered⟩, settled, rfl⟩

/-- The manifest is left as it is. -/
inductive Leaves (dryRun : Bool) (current wanted : String) (published : Bool) : Action → Prop
  | consistent (same : current = wanted) : Leaves dryRun current wanted published .consistent
  | inconsistent (differs : current ≠ wanted) (dry : dryRun = true) :
      Leaves dryRun current wanted published .inconsistent
  | blocked (differs : current ≠ wanted) (notDry : dryRun = false) (listed : published = true) :
      Leaves dryRun current wanted published .blocked

theorem settle_cases {path : String} {published : Bool} {action : Action}
    (h : settle package dryRun path text current wanted published files =
      .ok (action, changed)) :
    changed = files ∧ Leaves dryRun current wanted published action ∨
      current ≠ wanted ∧ dryRun = false ∧ published = false ∧ action = .updated current ∧
        ∃ new, package.writeVersion? text wanted = some new ∧ changed = files.write path new := by
  rw [settle] at h
  split at h
  · rename_i same
    cases h
    exact .inl ⟨rfl, .consistent same⟩
  · rename_i differs
    split at h
    · rename_i dry
      cases h
      exact .inl ⟨rfl, .inconsistent differs dry⟩
    · rename_i notDry
      have notDry : dryRun = false := by simpa using notDry
      split at h
      · rename_i listed
        cases h
        exact .inl ⟨rfl, .blocked differs notDry listed⟩
      · rename_i unlisted
        split at h
        · contradiction
        · rename_i new written
          cases h
          exact .inr ⟨differs, notDry, by simpa using unlisted, rfl, new, written, rfl⟩

/-- When a check may write a text to a manifest that holds another. -/
structure Permits (versions : Versions) (package : Package) (dryRun : Bool) (registry : Registry)
    (text wanted new : String) : Prop where
  notDry : dryRun = false
  wants : versions.of? package = some wanted
  differs : ∃ current, package.readVersion? text = some current ∧ current ≠ wanted
  unlisted : registry.Lacks package text wanted
  written : package.writeVersion? text wanted = some new

/-- A check writes only what it may, and then reports an update. -/
theorem files_check_cases (root : String) (versions : Versions) (package : Package) (dryRun : Bool)
    (registry : Registry) (files : Files) :
    (check root versions package dryRun registry files).files = files ∨
      ∃ text wanted new, files.read (Files.join root package.manifest) = .ok text ∧
        Permits versions package dryRun registry text wanted new ∧
        (check root versions package dryRun registry files).files =
          files.write (Files.join root package.manifest) new ∧
        ∃ report old, (check root versions package dryRun registry files).result = .ok report ∧
          report.action = .updated old := by
  obtain ⟨problem, calls, stopped⟩ |
    ⟨text, current, wanted, published, action, changed, inspects, settled, reported⟩ :=
      check_cases root versions package dryRun registry files
  · exact .inl (congrArg Outcome.files stopped)
  · rw [reported]
    obtain ⟨rfl, -⟩ | ⟨differs, notDry, rfl, rfl, new, written, rfl⟩ := settle_cases settled
    · exact .inl rfl
    · exact .inr ⟨text, wanted, new, inspects.read,
        ⟨notDry, inspects.wants, ⟨current, inspects.declares, differs⟩,
          isPublished_eq_false_iff.mp inspects.answers, written⟩,
        rfl, _, current, rfl, rfl⟩

/-- The files differ only in manifests of these packages that were rewritten as permitted. -/
structure OnlyRewrites (root : String) (versions : Versions) (dryRun : Bool) (registry : Registry)
    (packages : List Package) (files changed : Files) : Prop where
  directories : changed.directories = files.directories
  resolve : ∀ path, changed.resolve path = files.resolve path
  rewritten : ∀ place, changed.textAt? place ≠ files.textAt? place →
    ∃ package ∈ packages, ∃ text wanted new,
      files.resolve (Files.join root package.manifest) = .ok place ∧
        files.textAt? place = some text ∧
        Permits versions package dryRun registry text wanted new ∧
        changed.textAt? place = some new

namespace OnlyRewrites

variable {packages : List Package}

theorem refl (files : Files) :
    OnlyRewrites root versions dryRun registry packages files files :=
  ⟨rfl, fun _ => rfl, fun _ differs => absurd rfl differs⟩

/-- A permission for the text that one rewriting left is one for the text before it. -/
theorem permits_trans {middle : String}
    (first : Permits versions package dryRun registry text wanted middle)
    (second : Permits versions package dryRun registry middle wanted new) : new = middle := by
  have again := Package.writeVersion?_writeVersion? (Versions.isVersion_of? first.wants)
    first.written wanted
  exact Option.some.inj (second.written.symm.trans (again.trans first.written))

theorem trans
    (first : OnlyRewrites root versions dryRun registry [package] files changed)
    (others : OnlyRewrites root versions dryRun registry packages changed last) :
    OnlyRewrites root versions dryRun registry (package :: packages) files last where
  directories := others.directories.trans first.directories
  resolve path := (others.resolve path).trans (first.resolve path)
  rewritten place differs := by
    by_cases kept : last.textAt? place = changed.textAt? place
    · rw [kept] at differs ⊢
      obtain ⟨touched, mem, rest⟩ := first.rewritten place differs
      rw [List.mem_singleton] at mem
      exact ⟨touched, mem ▸ List.mem_cons_self, rest⟩
    · obtain ⟨other, mem, middle, wanted, new, resolved, found, permits, ending⟩ :=
        others.rewritten place kept
      rw [first.resolve] at resolved
      by_cases early : changed.textAt? place = files.textAt? place
      · exact ⟨other, List.mem_cons_of_mem _ mem, middle, wanted, new, resolved,
          early ▸ found, permits, ending⟩
      · obtain ⟨touched, -, text, wanted', middle', resolved', found', permits', between⟩ :=
          first.rewritten place early
        -- Both rewritings are of one manifest, and the second writes what is there already.
        obtain rfl := Package.eq_of_resolve_manifest resolved resolved'
        obtain rfl := Option.some.inj (permits.wants.symm.trans permits'.wants)
        obtain rfl := Option.some.inj (found.symm.trans between)
        obtain rfl := permits_trans permits' permits
        exact absurd (ending.trans found.symm) kept

end OnlyRewrites

theorem onlyRewrites_check (root : String) (versions : Versions) (package : Package)
    (dryRun : Bool) (registry : Registry) (files : Files) :
    OnlyRewrites root versions dryRun registry [package] files
      (check root versions package dryRun registry files).files := by
  obtain same | ⟨text, wanted, new, read, permits, written, -⟩ :=
    files_check_cases root versions package dryRun registry files
  · rw [same]
    exact .refl files
  · obtain ⟨target, resolved, found⟩ := Files.read_eq_ok_iff.mp read
    rw [written]
    refine ⟨Files.directories_write .., fun _ => Files.resolve_write .., fun place differs => ?_⟩
    rw [Files.textAt?_write resolved] at differs ⊢
    by_cases same : place = target
    · subst same
      exact ⟨package, List.mem_singleton_self _, text, wanted, new, resolved, found, permits,
        by rw [if_pos rfl, found]; rfl⟩
    · exact absurd (if_neg same) differs

theorem onlyRewrites_checkAll (root : String) (versions : Versions) (dryRun : Bool)
    (registry : Registry) (packages : List Package) (files : Files) :
    OnlyRewrites root versions dryRun registry packages files
      (checkAll root versions dryRun registry packages files).files := by
  induction packages generalizing files with
  | nil => exact .refl files
  | cons package packages ih =>
      have first := onlyRewrites_check root versions package dryRun registry files
      rw [checkAll]
      dsimp only
      split
      · exact first.trans (.refl _)
      · exact first.trans (ih _)

/-! Checks that pass. -/

theorem Report.passed_iff {report : Report} :
    report.passed = true ↔
      report.published = false ∧
        (report.action = .consistent ∨ ∃ old, report.action = .updated old) := by
  rw [Report.passed, Bool.and_eq_true, Bool.not_eq_true']
  cases report.action <;> simp

/-- A check that passed found the wanted version, or wrote it. -/
theorem inspects_of_passed {report : Report}
    (h : (check root versions package dryRun registry files).result = .ok report)
    (passed : report.passed = true) :
    ∃ text current wanted, Inspects root versions package registry files text current wanted false ∧
      (check root versions package dryRun registry files).calls = lookups package text ∧
      (current = wanted ∧ (check root versions package dryRun registry files).files = files ∨
        current ≠ wanted ∧ dryRun = false ∧ ∃ new, package.writeVersion? text wanted = some new ∧
          (check root versions package dryRun registry files).files =
            files.write (Files.join root package.manifest) new) := by
  obtain ⟨problem, calls, stopped⟩ |
    ⟨text, current, wanted, published, action, changed, inspects, settled, reported⟩ :=
      check_cases root versions package dryRun registry files
  · rw [stopped] at h
    contradiction
  · rw [reported] at h ⊢
    obtain rfl := Except.ok.inj h
    obtain ⟨unlisted, moved⟩ := Report.passed_iff.mp passed
    dsimp only at unlisted moved
    subst unlisted
    refine ⟨text, current, wanted, inspects, rfl, ?_⟩
    obtain ⟨rfl, leaves⟩ | ⟨differs, notDry, -, rfl, new, written, rfl⟩ := settle_cases settled
    · cases leaves with
      | consistent same => exact .inl ⟨same, rfl⟩
      | inconsistent => simp at moved
      | blocked => simp at moved
    · exact .inr ⟨differs, notDry, new, written, rfl⟩

section CheckAll

variable {packages : List Package}

theorem checkAll_cons_of_ok {report : Report}
    (h : (check root versions package dryRun registry files).result = .ok report) :
    checkAll root versions dryRun registry (package :: packages) files =
      let first := check root versions package dryRun registry files
      let others := checkAll root versions dryRun registry packages first.files
      ⟨others.result.map (report.passed && ·), others.files, first.calls ++ others.calls,
        first.log ++ others.log⟩ := by
  rw [checkAll]
  dsimp only
  rw [h]

theorem result_checkAll_cons_iff :
    (checkAll root versions dryRun registry (package :: packages) files).result = .ok true ↔
      (∃ report, (check root versions package dryRun registry files).result = .ok report ∧
        report.passed = true) ∧
      (checkAll root versions dryRun registry packages
        (check root versions package dryRun registry files).files).result = .ok true := by
  cases found : (check root versions package dryRun registry files).result with
  | error problem =>
      rw [checkAll]
      dsimp only
      rw [found]
      simp
  | ok report =>
      rw [checkAll_cons_of_ok found]
      dsimp only
      cases (checkAll root versions dryRun registry packages
        (check root versions package dryRun registry files).files).result <;>
        simp [Except.map]

/-- Checks that passed asked the registry for every package that has a name in one. -/
theorem exists_call_of_checkAll
    (h : (checkAll root versions dryRun registry packages files).result = .ok true)
    (mem : package ∈ packages) :
    package = .cpp ∨ ∃ name,
      (package, name) ∈ (checkAll root versions dryRun registry packages files).calls := by
  induction packages generalizing files with
  | nil => contradiction
  | cons first packages ih =>
      obtain ⟨⟨report, ok, passed⟩, others⟩ := result_checkAll_cons_iff.mp h
      obtain ⟨text, current, wanted, -, calls, -⟩ := inspects_of_passed ok passed
      rw [checkAll_cons_of_ok ok]
      simp only [List.mem_append]
      rcases List.mem_cons.mp mem with rfl | mem
      · rw [calls]
        cases package with
        | rust => exact .inr ⟨"dv-core", .inl (by simp [lookups, Package.registryName?])⟩
        | python => exact .inr ⟨_, .inl (by simp [lookups, Package.registryName?]; rfl)⟩
        | cpp => exact .inl rfl
      · exact (ih others mem).imp_right fun ⟨name, call⟩ => ⟨name, .inr call⟩

/-- Nothing that was looked up by checks that passed is published in the wanted version. -/
theorem unlisted_of_checkAll {name : String}
    (h : (checkAll root versions dryRun registry packages files).result = .ok true)
    (call : (package, name) ∈ (checkAll root versions dryRun registry packages files).calls) :
    ∃ listed wanted, registry.versions package name = .ok listed ∧
      versions.of? package = some wanted ∧ wanted ∉ listed := by
  induction packages generalizing files with
  | nil => contradiction
  | cons first packages ih =>
      obtain ⟨⟨report, ok, passed⟩, others⟩ := result_checkAll_cons_iff.mp h
      obtain ⟨text, current, wanted, inspects, calls, -⟩ := inspects_of_passed ok passed
      rw [checkAll_cons_of_ok ok] at call
      rcases List.mem_append.mp call with call | call
      · rw [calls, lookups, Option.mem_toList] at call
        obtain ⟨_, named, same⟩ := Option.map_eq_some_iff.mp call
        cases same
        obtain ⟨listed, answer, absent⟩ :=
          isPublished_eq_false_iff.mp inspects.answers name named
        exact ⟨listed, wanted, answer, inspects.wants, absent⟩
      · exact ih others call

/-- Dry runs leave everything as it is. -/
theorem files_check_dryRun : (check root versions package true registry files).files = files := by
  obtain same | ⟨_, _, _, _, permits, _⟩ :=
    files_check_cases root versions package true registry files
  · exact same
  · exact absurd permits.notDry (by decide)

theorem files_checkAll_dryRun :
    (checkAll root versions true registry packages files).files = files := by
  induction packages generalizing files with
  | nil => rfl
  | cons package packages ih =>
      rw [checkAll]
      dsimp only
      split
      · exact files_check_dryRun
      · exact ih.trans files_check_dryRun

end CheckAll

end Dimensional.Release
