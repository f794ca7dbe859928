import Dimensional.Docs.Listing
import Dimensional.Docs.Target

/-!
Answering requests for the files below a directory.  The front page has routes of its own, and a
file service answers all other requests; what it answers is written down here after its
documentation.  A target that is none of HTTP, such as one with a blank or a `<` in it, is refused
before it gets here.
-/

namespace Dimensional.Docs

/-- A request whose target is one of HTTP. -/
structure Request where
  method : String
  target : String
deriving DecidableEq, Repr

structure Response where
  status : Nat
  location : Option String
  body : String
deriving DecidableEq, Repr

namespace Response

def text (body : String) : Response := ⟨200, none, body⟩

/-- The front page lies elsewhere. -/
def found (location : String) : Response := ⟨302, some location, ""⟩

/-- A directory is asked for as if it were a file. -/
def moved (location : String) : Response := ⟨307, some location, ""⟩

def notFound : Response := ⟨404, none, ""⟩

def badMethod : Response := ⟨405, none, ""⟩

def head (response : Response) : Response :=
  { response with body := "" }

end Response

/-- A directory, and where its front page lies if it is not in the directory itself. -/
structure Site where
  files : Files
  root : Place
  front : Option String

namespace Site

def ofPath (files : Files) (path : String) : Site where
  files
  root :=
    match files.resolve path with
    | .ok place => place
    | .error _ => Files.names path
  front := chooseRedirect files path

/-- The names that lead from the root to what a path asks for, unless they could lead out of it. -/
def placeBelow? (path : List Char) : Option Place := do
  let path ← Target.decode? (path.dropWhile (· == '/'))
  if path.head? = some '/' then none
  else
    let names := ((Text.splitAt '/' path).map String.ofList).filter fun name =>
      name != "" && name != "."
    if names.contains ".." then none else some names

def file (site : Site) (place : Place) : Response :=
  match site.files.textAt? place with
  | some text => .text text
  | none => .notFound

/-- The answer of the file service. -/
def lookUp (site : Site) (target : Target) : Response :=
  match placeBelow? target.path with
  | none => .notFound
  | some names =>
      let place := site.root ++ names
      if site.files.isDirectoryAt place then
        if target.isDirectory then site.file (place ++ [indexName])
        else .moved target.directoryText
      else site.file place

def isFront (target : Target) : Bool :=
  target.path == ['/'] || target.path == '/' :: indexName.toList

def get (site : Site) (target : Target) : Response :=
  match site.front with
  | some front => if isFront target then .found ("/" ++ front) else site.lookUp target
  | none => site.lookUp target

def respond (site : Site) (request : Request) : Response :=
  match request.method with
  | "GET" => site.get (Target.read request.target)
  | "HEAD" => (site.get (Target.read request.target)).head
  | _ => .badMethod

end Site

end Dimensional.Docs
