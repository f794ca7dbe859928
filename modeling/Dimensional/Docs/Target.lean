import Dimensional.Text.Characters

/-!
Targets of requests: a path, in which bytes may be written in hexadecimal, and a query.
-/

namespace Dimensional.Docs

structure Target where
  path : List Char
  query : Option (List Char)
deriving DecidableEq, Repr

namespace Target

def isPathChar (c : Char) : Bool :=
  c != '?' && c != '#'

def isQueryChar (c : Char) : Bool :=
  c != '#'

/-- What follows `#` plays no part. -/
def read (text : String) : Target where
  path := text.toList.takeWhile isPathChar
  query :=
    match text.toList.dropWhile isPathChar with
    | '?' :: rest => some (rest.takeWhile isQueryChar)
    | _ => none

def isDirectory (target : Target) : Bool :=
  target.path.getLast? == some '/'

def directoryText (target : Target) : String :=
  String.ofList <| target.path ++ ['/'] ++
    match target.query with
    | some query => '?' :: query
    | none => []

def charBytes (c : Char) : List UInt8 :=
  (String.singleton c).toUTF8.data.toList

/-- The bytes of a path; a percent sign without two digits behind it stands for itself. -/
def bytes : List Char → List UInt8
  | '%' :: a :: b :: rest =>
      match Text.hexValue? a, Text.hexValue? b with
      | some high, some low => UInt8.ofNat (high * 16 + low) :: bytes rest
      | _, _ => charBytes '%' ++ bytes (a :: b :: rest)
  | c :: rest => charBytes c ++ bytes rest
  | [] => []

def decode? (path : List Char) : Option (List Char) :=
  (String.fromUTF8? ⟨(bytes path).toArray⟩).map (·.toList)

end Target

end Dimensional.Docs
