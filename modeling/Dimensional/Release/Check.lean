import Dimensional.Files
import Dimensional.Release.Package
import Dimensional.Log
import Dimensional.Release.Manifest

/-!
Checking that manifests declare the versions that they should, and correcting those that do not.
A version that is published already is never written.
-/

namespace Dimensional.Release

inductive Task where
  | read
  | write
deriving DecidableEq, Repr

def Task.name : Task → String
  | read => "read"
  | write => "rewrite"

/-- Why a release check stops. -/
inductive Problem where
  | unreadable (path : String) (cause : Files.Problem)
  | invalidVersions
  | missingPatch (package : Package)
  | noVersion (path : String) (task : Task)
  | registry (message : String)
deriving DecidableEq

namespace Problem

def message : Problem → String
  | unreadable path _ => "reading " ++ path
  | invalidVersions => "invalid VERSION.toml"
  | missingPatch package => "VERSION.toml has no patch entry for `" ++ package.key ++ "`"
  | noVersion path task => path ++ ": no version found (" ++ task.name ++ ")"
  | registry message => message

def cause? : Problem → Option String
  | unreadable _ cause => some cause.message
  | _ => none

end Problem

inductive Action where
  | consistent
  | updated (old : String)
  /-- Left alone in a dry run. -/
  | inconsistent
  /-- Left alone because the wanted version is published. -/
  | blocked
deriving DecidableEq, Repr

structure Report where
  package : Package
  current : String
  wanted : String
  published : Bool
  action : Action
deriving DecidableEq

namespace Report

def passed (report : Report) : Bool :=
  !report.published &&
    match report.action with
    | .consistent | .updated _ => true
    | .inconsistent | .blocked => false

def publication (report : Report) : Log.Line :=
  let subject := report.package.title ++ " " ++ report.wanted
  if report.published then ⟨.warn, subject ++ " is already published"⟩
  else ⟨.info, subject ++ " is not yet published"⟩

def outcome (report : Report) : Log.Line :=
  let title := report.package.title
  match report.action with
  | .consistent => ⟨.info, title ++ " manifest is consistent"⟩
  | .updated old =>
      ⟨.warn, "Updated " ++ title ++ " manifest from " ++ old ++ " to " ++ report.wanted⟩
  | .inconsistent =>
      ⟨.warn, title ++ " manifest is inconsistent: manifest " ++ report.current ++
        ", VERSION.toml " ++ report.wanted⟩
  | .blocked =>
      ⟨.warn, title ++ " manifest cannot be updated: " ++ report.wanted ++
        " is already published"⟩

def log (report : Report) : List Log.Line :=
  [⟨.info, "--- " ++ report.package.title ++ " version check ---"⟩, report.publication,
    report.outcome]

end Report

/-- What comes of a check: its result, the files after it, the names that were looked up and the
lines that were logged. -/
structure Outcome (α : Type) where
  result : Except Problem α
  files : Files
  calls : List (Package × String)
  log : List Log.Line

namespace Outcome

def stopped {α : Type} (problem : Problem) (files : Files) (calls : List (Package × String)) :
    Outcome α :=
  ⟨.error problem, files, calls, []⟩

def reported (report : Report) (files : Files) (calls : List (Package × String)) :
    Outcome Report :=
  ⟨.ok report, files, calls, report.log⟩

end Outcome

/-- The names that are looked up to learn whether a version is published. -/
def lookups (package : Package) (text : String) : List (Package × String) :=
  ((package.registryName? text).map (package, ·)).toList

def isPublished (registry : Registry) (package : Package) (text wanted : String) :
    Except String Bool :=
  match package.registryName? text with
  | some name => (registry.versions package name).map (·.contains wanted)
  | none => .ok false

/-- Brings a manifest whose current and wanted versions are known in line, if that is allowed. -/
def settle (package : Package) (dryRun : Bool) (path text current wanted : String)
    (published : Bool) (files : Files) : Except Problem (Action × Files) :=
  if current = wanted then .ok (.consistent, files)
  else if dryRun then .ok (.inconsistent, files)
  else if published then .ok (.blocked, files)
  else
    match package.writeVersion? text wanted with
    | none => .error (.noVersion path .write)
    | some text => .ok (.updated current, files.write path text)

@[simp] theorem settle_self (package : Package) (dryRun : Bool) (path text wanted : String)
    (published : Bool) (files : Files) :
    settle package dryRun path text wanted wanted published files = .ok (.consistent, files) :=
  if_pos rfl

/-- Checks one manifest below a root, and corrects it unless this is a dry run. -/
def check (root : String) (versions : Versions) (package : Package) (dryRun : Bool)
    (registry : Registry) (files : Files) : Outcome Report :=
  match versions.of? package with
  | none => .stopped (.missingPatch package) files []
  | some wanted =>
      let path := Files.join root package.manifest
      match files.read path with
      | .error cause => .stopped (.unreadable path cause) files []
      | .ok text =>
          match package.readVersion? text with
          | none => .stopped (.noVersion path .read) files []
          | some current =>
              let calls := lookups package text
              match isPublished registry package text wanted with
              | .error message => .stopped (.registry message) files calls
              | .ok published =>
                  match settle package dryRun path text current wanted published files with
                  | .error problem => .stopped problem files calls
                  | .ok (action, files) =>
                      .reported ⟨package, current, wanted, published, action⟩ files calls

def checkAll (root : String) (versions : Versions) (dryRun : Bool) (registry : Registry) :
    (packages : List Package) → Files → Outcome Bool
  | [], files => ⟨.ok true, files, [], []⟩
  | package :: packages, files =>
      let first := check root versions package dryRun registry files
      match first.result with
      | .error problem => ⟨.error problem, first.files, first.calls, first.log⟩
      | .ok report =>
          let others := checkAll root versions dryRun registry packages first.files
          ⟨others.result.map (report.passed && ·), others.files, first.calls ++ others.calls,
            first.log ++ others.log⟩

end Dimensional.Release
