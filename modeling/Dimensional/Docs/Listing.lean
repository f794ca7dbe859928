import Dimensional.Files

/-!
What a directory shows of the documentation in it.
-/

namespace Dimensional.Docs

def indexName : String := "index.html"

/-- Whether a directory has an index, and the entries of the directory in any order, each with
whether it is a directory with an index. -/
structure Listing where
  hasIndex : Bool
  entries : List (String × Bool)
deriving DecidableEq, Repr

namespace Listing

/-- The index of the only entry that has one, if the directory itself has none. -/
def redirect? (listing : Listing) : Option String :=
  if listing.hasIndex then none
  else
    match listing.entries.filter (·.2) with
    | [(name, _)] => some (name ++ "/" ++ indexName)
    | _ => none

def ofPlace (files : Files) (place : Place) : Listing where
  hasIndex := files.isFileAt (place ++ [indexName])
  entries :=
    (files.children place).map fun name => (name, files.isFileAt (place ++ [name, indexName]))

/-- The listing of a directory, if there is one at the path. -/
def ofPath? (files : Files) (path : String) : Option Listing :=
  match files.resolve path with
  | .ok place => if files.isDirectoryAt place then some (ofPlace files place) else none
  | .error _ => none

end Listing

/-- Where the front page of a directory lies, if it is not in the directory itself. -/
def chooseRedirect (files : Files) (path : String) : Option String :=
  (Listing.ofPath? files path).bind Listing.redirect?

end Dimensional.Docs
