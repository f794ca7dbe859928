import Dimensional.Release.Package
import Dimensional.Text.Quoted

/-!
Options of a release check.
-/

namespace Dimensional.Release

structure Options where
  dryRun : Bool
  offline : Bool
  packages : List Package
  versionFile : String
  root : String
deriving DecidableEq

namespace Options

inductive Problem where
  | noVersionFile
  | noRoot
  | unknown (argument : String)
deriving DecidableEq

def usage : String :=
  "usage: dv-versions [--dry-run] [--offline] [--all | --rust | --python | --cpp]... " ++
    "[--version-file PATH] [--root DIR]"

def Problem.message : Problem → String
  | noVersionFile => "--version-file needs a path\n" ++ usage
  | noRoot => "--root needs a directory\n" ++ usage
  | unknown argument => "unknown argument " ++ Text.quoteString argument ++ "\n" ++ usage

/-- Options as they are given: no package stands for all of them. -/
structure Draft where
  options : Options
  all : Bool

def Draft.initial : Draft :=
  ⟨⟨false, false, [], "VERSION.toml", "."⟩, false⟩

def Draft.select (draft : Draft) (package : Package) : Draft :=
  { draft with options.packages := draft.options.packages ++ [package] }

/-- Keeps one of equal packages that stand next to each other. -/
def dropRepeats : List Package → List Package
  | a :: b :: rest => if a = b then dropRepeats (b :: rest) else a :: dropRepeats (b :: rest)
  | packages => packages

theorem mem_dropRepeats {package : Package} {packages : List Package} :
    package ∈ dropRepeats packages ↔ package ∈ packages := by
  induction packages with
  | nil => rfl
  | cons a packages ih =>
      cases packages with
      | nil => rfl
      | cons b rest =>
          rw [dropRepeats]
          split
          · rename_i same
            simp [ih, same]
          · rw [List.mem_cons, ih, ← List.mem_cons]

def Draft.finish (draft : Draft) : Options :=
  let packages :=
    if draft.all || draft.options.packages.isEmpty then Package.all else draft.options.packages
  { draft.options with packages := dropRepeats packages }

def flag? (argument : String) (draft : Draft) : Option Draft :=
  match argument with
  | "--dry-run" | "--dryrun" => some { draft with options.dryRun := true }
  | "--offline" => some { draft with options.offline := true }
  | "--all" => some { draft with all := true }
  | "--rust" => some (draft.select .rust)
  | "--python" => some (draft.select .python)
  | "--cpp" => some (draft.select .cpp)
  | _ => none

def isVersionFile (argument : String) : Bool :=
  argument == "--version-file" || argument == "--version_file"

def readFrom (draft : Draft) : (arguments : List String) → Except Problem Draft
  | [] => .ok draft
  | [argument] =>
      if isVersionFile argument then .error .noVersionFile
      else if argument = "--root" then .error .noRoot
      else
        match flag? argument draft with
        | some draft => .ok draft
        | none => .error (.unknown argument)
  | argument :: next :: rest =>
      if isVersionFile argument then
        readFrom { draft with options.versionFile := next } rest
      else if argument = "--root" then readFrom { draft with options.root := next } rest
      else
        match flag? argument draft with
        | some draft => readFrom draft (next :: rest)
        | none => .error (.unknown argument)

def read (arguments : List String) : Except Problem Options :=
  (readFrom .initial arguments).map Draft.finish

end Options

end Dimensional.Release
