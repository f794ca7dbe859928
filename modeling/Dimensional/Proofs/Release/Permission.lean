import Dimensional.Proofs.Release.Check

/-!
A run writes to manifests of selected packages only, and only what its options and the registry
permit.
-/

namespace Dimensional.Release

/-- What a run may do to files, and what its success says about the registry. -/
structure KeepsToManifests (options : Options) (registry : Registry) (files : Files) : Prop where
  directories : (run options registry files).files.directories = files.directories
  /-- A file that changes is the manifest of a selected package, and was rewritten as permitted. -/
  rewritten : ∀ place, (run options registry files).files.textAt? place ≠ files.textAt? place →
    ∃ versions, readVersions files options.versionPath = .ok versions ∧
      ∃ package ∈ options.packages, ∃ text wanted new,
        files.resolve (Files.join options.root package.manifest) = .ok place ∧
          files.textAt? place = some text ∧
          Permits versions package options.dryRun registry text wanted new ∧
          (run options registry files).files.textAt? place = some new
  dryRun : options.dryRun = true → (run options registry files).files = files
  /-- A check that does not report an update leaves all files alone, in any state of the files. -/
  kept : ∀ versions package dryRun now,
    (∀ report old, (check options.root versions package dryRun registry now).result = .ok report →
      report.action ≠ .updated old) →
      (check options.root versions package dryRun registry now).files = now
  asked : (run options registry files).result = .ok true → ∀ package ∈ options.packages,
    package = .cpp ∨ ∃ name, (package, name) ∈ (run options registry files).calls
  unlisted : (run options registry files).result = .ok true →
    ∃ versions, readVersions files options.versionPath = .ok versions ∧
      ∀ package name, (package, name) ∈ (run options registry files).calls →
        ∃ listed wanted, registry.versions package name = .ok listed ∧
          versions.of? package = some wanted ∧ wanted ∉ listed

section Run

variable {options : Options} {registry : Registry} {files : Files}

theorem run_of_error {problem : Problem}
    (h : readVersions files options.versionPath = .error problem) :
    (run options registry files).result = .error problem ∧
      (run options registry files).files = files := by
  delta run
  rw [h]
  exact ⟨rfl, rfl⟩

theorem run_of_ok {versions : Versions}
    (h : readVersions files options.versionPath = .ok versions) :
    let checked :=
      checkAll options.root versions options.dryRun registry options.packages files
    (run options registry files).result = checked.result ∧
      (run options registry files).files = checked.files ∧
      (run options registry files).calls = checked.calls := by
  delta run
  rw [h]
  exact ⟨rfl, rfl, rfl⟩

theorem run_cases (options : Options) (registry : Registry) (files : Files) :
    (∃ problem, (run options registry files).result = .error problem ∧
      (run options registry files).files = files) ∨
    ∃ versions, readVersions files options.versionPath = .ok versions ∧
      let checked :=
        checkAll options.root versions options.dryRun registry options.packages files
      (run options registry files).result = checked.result ∧
        (run options registry files).files = checked.files ∧
        (run options registry files).calls = checked.calls := by
  cases found : readVersions files options.versionPath with
  | error problem => exact .inl ⟨problem, run_of_error found⟩
  | ok versions => exact .inr ⟨versions, rfl, run_of_ok found⟩

theorem run_keepsToManifests (options : Options) (registry : Registry) (files : Files) :
    KeepsToManifests options registry files where
  directories := by
    obtain ⟨-, -, same⟩ | ⟨versions, -, -, changed, -⟩ := run_cases options registry files
    · rw [same]
    · rw [changed]
      exact (onlyRewrites_checkAll ..).directories
  rewritten place differs := by
    obtain ⟨-, -, same⟩ | ⟨versions, read, -, changed, -⟩ := run_cases options registry files
    · exact absurd (congrArg (Files.textAt? · place) same) differs
    · rw [changed] at differs ⊢
      exact ⟨versions, read, (onlyRewrites_checkAll ..).rewritten place differs⟩
  dryRun dry := by
    obtain ⟨-, -, same⟩ | ⟨versions, -, -, changed, -⟩ := run_cases options registry files
    · exact same
    · rw [changed, dry]
      exact files_checkAll_dryRun
  kept versions package dryRun now notUpdated := by
    obtain same | ⟨-, -, -, -, -, -, report, old, ok, updated⟩ :=
      files_check_cases options.root versions package dryRun registry now
    · exact same
    · exact absurd updated (notUpdated report old ok)
  asked passed package mem := by
    obtain ⟨problem, failed, -⟩ | ⟨versions, -, result, -, calls⟩ :=
      run_cases options registry files
    · rw [failed] at passed
      contradiction
    · rw [calls]
      exact exists_call_of_checkAll (result ▸ passed) mem
  unlisted passed := by
    obtain ⟨problem, failed, -⟩ | ⟨versions, read, result, -, calls⟩ :=
      run_cases options registry files
    · rw [failed] at passed
      contradiction
    · refine ⟨versions, read, fun package name call => ?_⟩
      exact unlisted_of_checkAll (result ▸ passed) (calls ▸ call)

end Run

end Dimensional.Release
