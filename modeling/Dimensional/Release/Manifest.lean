import Dimensional.Release.Heading
import Dimensional.Release.Package
import Dimensional.Release.ProjectCall
import Dimensional.Toml.Document

/-!
The version that a manifest declares, the name that a package is published under, and the version
file: two numbers that all packages share, and a third for each package.
-/

namespace Dimensional.Release

namespace Package

/-- Where a manifest in TOML declares the version; the others are CMake files. -/
def heading? : Package → Option (List String)
  | rust => some ["workspace", "package"]
  | python => some ["project"]
  | cpp => none

def readVersion? (package : Package) (text : String) : Option String :=
  match package.heading? with
  | some heading => Toml.text? text.toList (heading ++ ["version"])
  | none => (ProjectCall.find? text.toList).map fun span => String.ofList span.word

def writeVersion? (package : Package) (text version : String) : Option String :=
  match package.heading? with
  | some heading =>
      (Heading.replace text.toList (".".intercalate heading).toList "version".toList
        version.toList).map String.ofList
  | none =>
      (ProjectCall.find? text.toList).map fun span =>
        String.ofList (span.replace version.toList).text

/-- The name that the package is published under, if it is published at all. -/
def registryName? (package : Package) (text : String) : Option String :=
  match package with
  | rust => some "dv-core"
  | python => some ((Toml.text? text.toList ["project", "name"]).getD "dv")
  | cpp => none

end Package

structure Versions where
  major : Nat
  minor : Nat
  patch : List (String × Nat)
deriving DecidableEq

namespace Versions

def counters? (table : Toml.Table) : Option (List (String × Nat)) :=
  table.mapM fun (key, item) => item.natural?.map (key, ·)

def ofTable? (table : Toml.Table) : Option Versions := do
  let major ← (← table.find? "major").natural?
  let minor ← (← table.find? "minor").natural?
  match ← table.find? "patch" with
  | .table _ patch => return ⟨major, minor, ← counters? patch⟩
  | _ => none

/-- Keys that have no meaning here are ignored. -/
def read? (text : String) : Option Versions := do
  ofTable? (← Toml.read? text.toList)

def written (major minor patch : Nat) : String :=
  toString major ++ "." ++ toString minor ++ "." ++ toString patch

def of? (versions : Versions) (package : Package) : Option String :=
  (versions.patch.lookup package.key).map (written versions.major versions.minor)

end Versions

end Dimensional.Release
