import Dimensional.Docs.Config
import Dimensional.Docs.Site
import Dimensional.Log

/-!
The documentation server: a directory is served at the first port that is free.
-/

namespace Dimensional.Docs

/-- How many ports above the wanted one are tried. -/
def maxIncrements : Nat := 20

namespace Server

inductive Problem where
  | noDirectory (path : String)
  | refused (host : String) (port : Nat) (cause : String)
  | noFreePort (increments port : Nat)
deriving DecidableEq

abbrev PortText := Nat → String

def Problem.message (portText : PortText) : Problem → String
  | noDirectory path =>
      "documentation directory " ++ path ++ " does not exist; run `cargo doc` first"
  | refused host port _ => "failed to bind " ++ host ++ ":" ++ portText port
  | noFreePort increments port =>
      "could not find a free port after " ++ toString increments ++ " increments from " ++
        portText port

def Problem.cause? : Problem → Option String
  | refused _ _ cause => some cause
  | _ => none

def busyLine? (portText : PortText) : Nat × Port.Attempt → Option Log.Line
  | (port, .inUse) =>
      some ⟨.warn, "Port " ++ portText port ++ " is in use, trying the next one"⟩
  | _ => none

/-- Looks for a port to listen at, and logs those that are in use. -/
def bind (portText : PortText) (attempt : Nat → Port.Attempt) (host : String)
    (port increments : Nat) : Except Problem Nat × List Log.Line :=
  let search := Port.search attempt increments port
  let log := search.tried.filterMap (busyLine? portText)
  match search.result with
  | .ok port => (.ok port, log)
  | .error (.refused port cause) => (.error (.refused host port cause), log)
  | .error .allInUse => (.error (.noFreePort increments port), log)

def redirectLine? (site : Site) : Option Log.Line :=
  site.front.map fun front => ⟨.info, "Redirecting / to /" ++ front⟩

def servingLine (portText : PortText) (config : Config) (port : Nat) : Log.Line :=
  ⟨.info, "Serving docs from " ++ config.directory ++ " at http://" ++ config.host ++ ":" ++
    portText port ++ "/"⟩

def stoppingLine : Log.Line :=
  ⟨.info, "Stopping server"⟩

/-- Serves until it is stopped; the result is what was served. -/
def serve (portText : PortText) (attempt : Nat → Port.Attempt) (config : Config)
    (files : Files) : Except Problem Site × List Log.Line :=
  if !files.isDirectory config.directory then (.error (.noDirectory config.directory), [])
  else
    let site := Site.ofPath files config.directory
    let (bound, log) := bind portText attempt config.host config.port maxIncrements
    let log := (redirectLine? site).toList ++ log
    match bound with
    | .error problem => (.error problem, log)
    | .ok port => (.ok site, log ++ [servingLine portText config port, stoppingLine])

end Server

/-- What lies between those who ask and the server. -/
structure Link where
  reachable : Bool

namespace Link

inductive Problem where
  | unreachable
deriving DecidableEq

def Problem.message : Problem → String
  | unreachable => "Network is unreachable (os error 101)"

/-- Asks for one thing after another, and gives up when the server cannot be reached. -/
def exchange (link : Link) (site : Site) (requests : List Request) :
    Except Problem (List Response) :=
  if link.reachable ∨ requests = [] then .ok (requests.map site.respond)
  else .error .unreachable

end Link

def startRecord (config : Config) : Log.Record :=
  ⟨"dv_serve_docs", .info, "Starting documentation server for " ++ config.directory⟩

def program (arguments : List String) (environment : String → Option String)
    (attempt : Nat → Port.Attempt) (files : Files) : Ending :=
  match Config.read arguments environment with
  | .error problem => .failure [] problem.message problem.cause?
  | .ok config =>
      let (served, lines) := Server.serve toString attempt config files
      let log := startRecord config :: lines.map fun line => ⟨"dv_tools::docs", line⟩
      match served with
      | .error problem => .failure log (problem.message toString) problem.cause?
      | .ok _ => .success log

/-- The directory that the program serves, unless its settings are faulty. -/
def directories (arguments : List String) (environment : String → Option String) : List String :=
  match Config.read arguments environment with
  | .ok config => [config.directory]
  | .error _ => []

end Dimensional.Docs
