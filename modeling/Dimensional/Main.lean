import Dimensional.Docs.Program
import Dimensional.Release.Program

/-!
The command line: `dv-versions` and `dv-serve-docs`, each with its arguments.
-/

namespace Dimensional.CommandLine

def readText? (path : String) : IO (Option String) := do
  try return some (← IO.FS.readFile path)
  catch _ => return none

def readTexts (paths : List String) : IO (List (String × String)) :=
  paths.filterMapM fun path => do return (← readText? path).map (path, ·)

/-- Writes out the texts that are not what they were. -/
def writeTexts (texts : List (String × String)) (files : Files) : IO Unit :=
  texts.forM fun (path, old) =>
    match files.read path with
    | .ok text => unless text = old do IO.FS.writeFile path text
    | .error _ => return

def isDirectory (path : String) : IO Bool := do
  try (← IO.FS.realPath path).isDir
  catch _ => return false

def finish (ending : Ending) : IO UInt32 := do
  let threshold := Log.Threshold.ofSetting (← IO.getEnv "RUST_LOG")
  for record in ending.shown threshold do
    IO.println record.render
  IO.eprint ending.complaint
  return ending.exitCode.toUInt32

/-- No registry is asked from here. -/
def unreachable (address : String) : Except String (List String) :=
  .error ("requesting " ++ address)

def checkVersions (arguments : List String) : IO UInt32 := do
  let texts ← readTexts (Release.paths arguments)
  let (ending, files) :=
    Release.program arguments (.online unreachable) (Files.ofPaths texts [])
  writeTexts texts files
  finish ending

/-- No port is listened at from here. -/
def refuse (_ : Nat) : Docs.Port.Attempt :=
  .refused "Operation not supported (os error 95)"

def serveDocs (arguments : List String) : IO UInt32 := do
  let settings ← ["HOST", "PORT", "DOCS_DIR"].filterMapM fun name => do
    return (← IO.getEnv name).map (name, ·)
  let environment (name : String) := settings.lookup name
  let directories ← (Docs.directories arguments environment).filterM isDirectory
  finish (Docs.program arguments environment refuse (Files.ofPaths [] directories))

def run (arguments : List String) : IO UInt32 :=
  match arguments with
  | "dv-versions" :: arguments => checkVersions arguments
  | "dv-serve-docs" :: arguments => serveDocs arguments
  | _ => do
      IO.eprintln "usage: (dv-versions | dv-serve-docs) ARGUMENT..."
      return 2

end Dimensional.CommandLine

def main (arguments : List String) : IO UInt32 :=
  Dimensional.CommandLine.run arguments
