import Dimensional.Proofs.Files
import Dimensional.Proofs.Number.Digits
import Dimensional.Proofs.Release.Heading
import Dimensional.Proofs.Release.ProjectCall
import Dimensional.Release.Manifest

/-!
Manifests: where they lie, and what writing a version to one does to the versions that are written
or read afterwards.
-/

namespace Dimensional.Release

open ProjectCall (IsVersion isVersionChar)

namespace Versions

variable {versions : Versions} {package : Package} {wanted : String}

theorem isVersion_written (major minor patch : Nat) :
    IsVersion (written major minor patch).toList := by
  have digits (n : Nat) : ∀ c ∈ (toString n).toList, isVersionChar c = true := by
    intro c mem
    rw [Nat.toString_eq_repr, Nat.toList_repr] at mem
    have digit : c.isDigit = true := Number.isDigit_of_mem_natText mem
    simp [isVersionChar, digit]
  constructor
  · simp [written]
  · intro c mem
    simp only [written, String.toList_append, List.mem_append] at mem
    obtain (((mem | mem) | mem) | mem) | mem := mem
    · exact digits major c mem
    · exact List.all_eq_true.mp (by decide : ".".toList.all isVersionChar = true) c mem
    · exact digits minor c mem
    · exact List.all_eq_true.mp (by decide : ".".toList.all isVersionChar = true) c mem
    · exact digits patch c mem

theorem isVersion_of? (h : versions.of? package = some wanted) : IsVersion wanted.toList := by
  obtain ⟨patch, -, rfl⟩ := Option.map_eq_some_iff.mp h
  exact isVersion_written _ _ patch

end Versions

namespace Package

theorem isKey_version : Heading.IsKey "version".toList :=
  .of_all (by decide) (by decide)

variable {package : Package} {heading : List String} {text version new : String}

theorem readVersion?_of_heading (h : package.heading? = some heading) (text : String) :
    package.readVersion? text = Toml.text? text.toList (heading ++ ["version"]) := by
  rw [readVersion?, h]

theorem writeVersion?_of_heading (h : package.heading? = some heading) (text version : String) :
    package.writeVersion? text version =
      (Heading.replace text.toList (".".intercalate heading).toList "version".toList
        version.toList).map String.ofList := by
  rw [writeVersion?, h]

theorem writeVersion?_of_none (h : package.heading? = none) (text version : String) :
    package.writeVersion? text version =
      (ProjectCall.find? text.toList).map fun span =>
        String.ofList (span.replace version.toList).text := by
  rw [writeVersion?, h]

/-- A second version takes the place of the first. -/
theorem writeVersion?_writeVersion? (isVersion : IsVersion version.toList)
    (h : package.writeVersion? text version = some new) (other : String) :
    package.writeVersion? new other = package.writeVersion? text other := by
  cases shape : package.heading? with
  | some heading =>
      rw [writeVersion?_of_heading shape] at h
      obtain ⟨out, replaced, rfl⟩ := Option.map_eq_some_iff.mp h
      rw [writeVersion?_of_heading shape, writeVersion?_of_heading shape, String.toList_ofList,
        Heading.replace_replace isKey_version (ProjectCall.newline_notMem isVersion.chars) replaced]
  | none =>
      rw [writeVersion?_of_none shape] at h
      obtain ⟨span, found, rfl⟩ := Option.map_eq_some_iff.mp h
      rw [writeVersion?_of_none shape, writeVersion?_of_none shape, String.toList_ofList,
        ProjectCall.find?_text_replace isVersion found, found]
      rfl

/-- What is written to a CMake file is read from it. -/
theorem readVersion?_writeVersion?_cpp (isVersion : IsVersion version.toList)
    (h : cpp.writeVersion? text version = some new) : cpp.readVersion? new = some version := by
  obtain ⟨span, found, rfl⟩ := Option.map_eq_some_iff.mp h
  refine Option.map_eq_some_iff.mpr ⟨span.replace version.toList, ?_, String.ofList_toList⟩
  rw [String.toList_ofList]
  exact ProjectCall.find?_text_replace isVersion found

/-! Manifests of different packages are different files. -/

/-- The name of the manifest in its directory. -/
def fileName : Package → String
  | rust => "Cargo.toml"
  | python => "pyproject.toml"
  | cpp => "CMakeLists.txt"

theorem fileName_injective {package other : Package} (h : package.fileName = other.fileName) :
    package = other := by
  cases package <;> cases other <;> first | rfl | exact absurd h (by decide)

theorem isName_fileName (package : Package) : Files.IsName package.fileName := by
  cases package <;> refine ⟨?_, ?_, ?_⟩ <;> decide

theorem getLast?_names_manifest (package : Package) :
    (Files.names package.manifest).getLast? = some package.fileName := by
  cases package <;> decide

variable {files : Files} {root : String} {place : Place}

theorem getLast?_of_resolve_manifest
    (h : files.resolve (Files.join root package.manifest) = .ok place) :
    place.getLast? = some package.fileName :=
  Files.getLast?_of_resolve h
    ((Files.getLast?_names_join root _).trans package.getLast?_names_manifest)
    package.isName_fileName

theorem eq_of_resolve_manifest {other : Package}
    (h : files.resolve (Files.join root package.manifest) = .ok place)
    (k : files.resolve (Files.join root other.manifest) = .ok place) : package = other :=
  fileName_injective (Option.some.inj
    ((getLast?_of_resolve_manifest h).symm.trans (getLast?_of_resolve_manifest k)))

end Package

end Dimensional.Release
