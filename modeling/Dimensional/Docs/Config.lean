import Dimensional.Docs.Port
import Dimensional.Text.Quoted

/-!
Settings of the documentation server: from the arguments, else from the environment, else fixed.
-/

namespace Dimensional.Docs

structure Config where
  directory : String
  host : String
  port : Nat
deriving DecidableEq

namespace Config

def initial : Config :=
  ⟨"target/doc", "127.0.0.1", 8000⟩

inductive Problem where
  | environmentPort (text : String) (cause : Port.Problem)
  | argumentPort (text : String) (cause : Port.Problem)
  | unexpected (argument : String)
deriving DecidableEq

def Problem.message : Problem → String
  | environmentPort text _ => "invalid PORT " ++ Text.quoteString text
  | argumentPort text _ => "invalid port argument " ++ Text.quoteString text
  | unexpected argument =>
      "unexpected argument " ++ Text.quoteString argument ++ "; usage: dv-serve-docs [port] [dir]"

def Problem.cause? : Problem → Option String
  | environmentPort _ cause => some cause.message
  | argumentPort _ cause => some cause.message
  | unexpected _ => none

/-- A port that is set in the environment has to be valid, even if it is not used. -/
def ofEnvironment (environment : String → Option String) : Except Problem Config :=
  let config : Config :=
    ⟨(environment "DOCS_DIR").getD initial.directory, (environment "HOST").getD initial.host,
      initial.port⟩
  match environment "PORT" with
  | none => .ok config
  | some text =>
      match Port.read text with
      | .ok port => .ok { config with port }
      | .error cause => .error (.environmentPort text cause)

def withPort (config : Config) (text : String) : Except Problem Config :=
  match Port.read text with
  | .ok port => .ok { config with port }
  | .error cause => .error (.argumentPort text cause)

/-- Reads a port and a directory, either of which may be missing. -/
def withArguments (config : Config) : (arguments : List String) → Except Problem Config
  | [] => .ok config
  | [port] => config.withPort port
  | [port, directory] => do
      let config ← config.withPort port
      return { config with directory }
  | port :: _ :: extra :: _ => do
      let _ ← config.withPort port
      .error (.unexpected extra)

def read (arguments : List String) (environment : String → Option String) :
    Except Problem Config := do
  (← ofEnvironment environment).withArguments arguments

end Config

end Dimensional.Docs
