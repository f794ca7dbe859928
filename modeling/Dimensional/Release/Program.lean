import Dimensional.Release.Check
import Dimensional.Release.Options
import Dimensional.Log

/-!
A release check as a whole: the version file is read once, then each selected manifest is checked.
As a program it takes arguments and ends in success or failure.
-/

namespace Dimensional.Release

def readVersions (files : Files) (path : String) : Except Problem Versions :=
  match files.read path with
  | .error cause => .error (.unreadable path cause)
  | .ok text =>
      match Versions.read? text with
      | some versions => .ok versions
      | none => .error .invalidVersions

def Options.versionPath (options : Options) : String :=
  Files.join options.root options.versionFile

def Options.manifestPaths (options : Options) : List String :=
  options.packages.map fun package => Files.join options.root package.manifest

def dryRunLine : Log.Line :=
  ⟨.info, "Dry run: no files will be modified"⟩

/-- Tells whether every check passed. -/
def run (options : Options) (registry : Registry) (files : Files) : Outcome Bool :=
  let opening := if options.dryRun then [dryRunLine] else []
  match readVersions files options.versionPath with
  | .error problem => ⟨.error problem, files, [], opening⟩
  | .ok versions =>
      let outcome :=
        checkAll options.root versions options.dryRun registry options.packages files
      { outcome with log := opening ++ outcome.log }

def Package.listText (packages : List Package) : String :=
  "[" ++ ", ".intercalate (packages.map Package.listName) ++ "]"

def heading (options : Options) : Log.Record :=
  ⟨"dv_versions", .info, "DV version check for " ++ Package.listText options.packages⟩

def inconsistency : String :=
  "version inconsistencies detected; run dv-versions without --dry-run to fix what can be fixed"

def passedRecord : Log.Record :=
  ⟨"dv_versions", .info, "All version checks passed"⟩

def Options.registry (options : Options) (online : Registry) : Registry :=
  if options.offline then .offline else online

def program (arguments : List String) (online : Registry) (files : Files) : Ending × Files :=
  match Options.read arguments with
  | .error problem => (.failure [] problem.message none, files)
  | .ok options =>
      let outcome := run options (options.registry online) files
      let log := heading options :: outcome.log.map fun line => ⟨"dv_tools::versions", line⟩
      match outcome.result with
      | .error problem => (.failure log problem.message problem.cause?, outcome.files)
      | .ok false => (.failure log inconsistency none, outcome.files)
      | .ok true => (.success (log ++ [passedRecord]), outcome.files)

def paths (arguments : List String) : List String :=
  match Options.read arguments with
  | .ok options => options.versionPath :: options.manifestPaths
  | .error _ => []

end Dimensional.Release
