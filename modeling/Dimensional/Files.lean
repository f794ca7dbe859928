import Dimensional.Text.Lines

/-!
A tree of text files.  A place is a list of names, from the directory where relative paths start.
-/

namespace Dimensional

abbrev Place := List String

structure Files where
  texts : List (Place × String)
  /-- Directories that need not hold anything. -/
  directories : List Place
deriving DecidableEq

namespace Files

inductive Problem where
  | notFound
  | notDirectory
  | isDirectory
deriving DecidableEq, Repr

def Problem.message : Problem → String
  | notFound => "No such file or directory (os error 2)"
  | notDirectory => "Not a directory (os error 20)"
  | isDirectory => "Is a directory (os error 21)"

/-- The place where absolute paths start. -/
def top : Place := ["/"]

def textAt? (files : Files) (place : Place) : Option String :=
  files.texts.lookup place

def isFileAt (files : Files) (place : Place) : Bool :=
  (files.textAt? place).isSome

/-- A place is a directory if something lies below it. -/
def isDirectoryAt (files : Files) (place : Place) : Bool :=
  place == top || place.all (· == "..") || files.directories.any (place.isPrefixOf ·) ||
    files.texts.any fun (file, _) => place.isPrefixOf file && place != file

/-- The directory that a place lies in, which may be above the one where paths start. -/
def parent (place : Place) : Place :=
  if place = top then top
  else if place.all (· == "..") then place ++ [".."]
  else place.dropLast

/-- The place that a name stands for, seen from a place. -/
def next (place : Place) (name : String) : Place :=
  if name = "" ∨ name = "." then place
  else if name = ".." then parent place
  else place ++ [name]

def enter (files : Files) (place : Place) (name : String) : Except Problem Place :=
  if !files.isDirectoryAt place then .error .notDirectory
  else if files.isFileAt (next place name) || files.isDirectoryAt (next place name) then
    .ok (next place name)
  else .error .notFound

def isAbsolute (path : String) : Bool :=
  path.toList.head? == some '/'

def names (path : String) : List String :=
  (Text.splitAt '/' path.toList).map String.ofList

def start (path : String) : Place :=
  if isAbsolute path then top else []

def resolve (files : Files) (path : String) : Except Problem Place :=
  if path = "" then .error .notFound
  else (names path).foldlM files.enter (start path)

def read (files : Files) (path : String) : Except Problem String :=
  match files.resolve path with
  | .error problem => .error problem
  | .ok place =>
      match files.textAt? place with
      | some text => .ok text
      | none => .error .isDirectory

/-- Replaces the text of a file that exists. -/
def writeAt (files : Files) (place : Place) (text : String) : Files where
  texts := files.texts.map fun (file, old) => if file = place then (file, text) else (file, old)
  directories := files.directories

def write (files : Files) (path text : String) : Files :=
  match files.resolve path with
  | .ok place => files.writeAt place text
  | .error _ => files

def isDirectory (files : Files) (path : String) : Bool :=
  match files.resolve path with
  | .ok place => files.isDirectoryAt place
  | .error _ => false

/-- A path below a directory; an absolute path stays what it is. -/
def join (directory path : String) : String :=
  if isAbsolute path ∨ directory = "" then path
  else if directory.toList.getLast? = some '/' then directory ++ path
  else directory ++ "/" ++ path

/-- The first name on the way from a directory to a place below it. -/
def nameBelow? (directory place : Place) : Option String :=
  if directory.isPrefixOf place then (place.drop directory.length).head? else none

/-- What lies in a directory, in no particular order. -/
def children (files : Files) (directory : Place) : List String :=
  ((files.texts.map (·.1) ++ files.directories).filterMap (nameBelow? directory)).eraseDups

/-- The places that are left behind on the way along some names. -/
def passed (place : Place) : (names : List String) → List Place
  | [] => []
  | name :: names => place :: passed (next place name) names

def placeOf (path : String) : Place :=
  (names path).foldl next (start path)

def ofPaths (texts : List (String × String)) (directories : List String) : Files where
  texts := texts.map fun (path, text) => (placeOf path, text)
  directories :=
    directories.map placeOf ++ texts.flatMap fun (path, _) => passed (start path) (names path)

theorem textAt?_writeAt (files : Files) (place other : Place) (text : String) :
    (files.writeAt place text).textAt? other =
      if other = place then (files.textAt? other).map fun _ => text else files.textAt? other := by
  obtain ⟨texts, directories⟩ := files
  simp only [writeAt, textAt?]
  induction texts with
  | nil => simp
  | cons entry rest ih =>
      obtain ⟨file, old⟩ := entry
      simp only [List.map_cons, List.lookup_cons]
      by_cases h : file = place <;> by_cases k : other = file <;> grind

end Files

end Dimensional
