/-!
The packages that are released together, and where they are published.
-/

namespace Dimensional.Release

inductive Package where
  | rust
  | python
  | cpp
deriving DecidableEq, Repr

namespace Package

def all : List Package := [rust, python, cpp]

/-- The name of the package in a version file. -/
def key : Package → String
  | rust => "rust"
  | python => "python"
  | cpp => "cpp"

/-- The name of the package in reports. -/
def title : Package → String
  | rust => "Rust"
  | python => "Python"
  | cpp => "C++"

/-- The name of the package in lists of packages. -/
def listName : Package → String
  | rust => "Rust"
  | python => "Python"
  | cpp => "Cpp"

/-- The path of the file that declares the version, below the root. -/
def manifest : Package → String
  | rust => "Cargo.toml"
  | python => "pyproject.toml"
  | cpp => "cpp/CMakeLists.txt"

end Package

/-- What a registry answers when it is asked for the versions of a package under a name. -/
structure Registry where
  versions : Package → (name : String) → Except String (List String)

namespace Registry

def offline : Registry where
  versions _ _ := .ok []

def address? (package : Package) (name : String) : Option String :=
  match package with
  | .rust => some ("https://crates.io/api/v1/crates/" ++ name)
  | .python => some ("https://pypi.org/pypi/" ++ name ++ "/json")
  | .cpp => none

/-- The public registries, where `fetch` lists the versions found at an address. -/
def online (fetch : String → Except String (List String)) : Registry where
  versions package name :=
    match address? package name with
    | some address => fetch address
    | none => .ok []

end Registry

end Dimensional.Release
