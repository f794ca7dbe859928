/-!
Log lines, and how a run of a program ends.
-/

namespace Dimensional.Log

inductive Level where
  | error
  | warn
  | info
  | debug
  | trace
deriving DecidableEq, Repr

def Level.name : Level → String
  | error => "ERROR"
  | warn => "WARN"
  | info => "INFO"
  | debug => "DEBUG"
  | trace => "TRACE"

/-- Errors weigh most. -/
def Level.rank : Level → Nat
  | error => 0
  | warn => 1
  | info => 2
  | debug => 3
  | trace => 4

structure Line where
  level : Level
  text : String
deriving DecidableEq, Repr

def Line.render (line : Line) : String :=
  line.level.name ++ " " ++ line.text

structure Record where
  source : String
  line : Line
deriving DecidableEq, Repr

def Record.render (record : Record) : String :=
  record.line.level.name ++ " " ++ record.source ++ ": " ++ record.line.text

/-- The lightest level that is shown, if any is. -/
abbrev Threshold := Option Level

def Threshold.shows (threshold : Threshold) (level : Level) : Bool :=
  threshold.any fun lightest => level.rank ≤ lightest.rank

/-- Without a setting that is understood, debugging lines are left out. -/
def Threshold.ofSetting (setting : Option String) : Threshold :=
  match setting.map fun text => text.toList.map Char.toLower with
  | some ['o', 'f', 'f'] => none
  | some ['e', 'r', 'r', 'o', 'r'] => some .error
  | some ['w', 'a', 'r', 'n'] => some .warn
  | some ['d', 'e', 'b', 'u', 'g'] => some .debug
  | some ['t', 'r', 'a', 'c', 'e'] => some .trace
  | _ => some .info

end Dimensional.Log

namespace Dimensional

structure Ending where
  exitCode : Nat
  log : List Log.Record
  complaint : String
deriving DecidableEq

namespace Ending

def complain (message : String) (cause : Option String) : String :=
  "Error: " ++ message ++ "\n" ++
    match cause with
    | none => ""
    | some cause => "\nCaused by:\n    " ++ cause ++ "\n"

def success (log : List Log.Record) : Ending :=
  ⟨0, log, ""⟩

def failure (log : List Log.Record) (message : String) (cause : Option String) : Ending :=
  ⟨1, log, complain message cause⟩

def shown (threshold : Log.Threshold) (ending : Ending) : List Log.Record :=
  ending.log.filter fun record => threshold.shows record.line.level

end Ending

end Dimensional
