import Dimensional.Log
import Dimensional.Units.Expression

/-!
What is logged while units are read: one line for each symbol that is taken apart into a prefix and
a unit, in the order of the text, and one for each expression that is understood.
-/

namespace Dimensional.Units

open Text

/-- The maximal runs of letters, in order. -/
def letterRuns (text : List Char) : List (List Char) :=
  match text with
  | [] => []
  | c :: rest =>
      if isAlphabetic c then
        (c :: rest.takeWhile isAlphabetic) :: letterRuns (rest.dropWhile isAlphabetic)
      else letterRuns rest
termination_by text.length
decreasing_by
  · have := (List.dropWhile_suffix (l := rest) isAlphabetic).length_le
    simp; omega
  · simp

namespace Registry

def splitLine? (registry : Registry) (symbol : List Char) : Option Log.Line :=
  let symbol := String.ofList symbol
  match registry.find? symbol with
  | some _ => none
  | none =>
      (registry.split? symbol).map fun (head, entry) =>
        ⟨.trace, "resolved " ++ quoteString symbol ++ " as " ++ head.name ++ " + " ++ entry.name⟩

/-- One line for each symbol in a text that was taken apart. -/
def splitLines (registry : Registry) (text : List Char) : List Log.Line :=
  (letterRuns text).filterMap registry.splitLine?

def parsedLine (unit : String) (m : Measure) : Log.Line :=
  ⟨.trace, "parsed unit " ++ quoteString unit ++ ": dimension " ++ m.dimension.text ++
    ", scale " ++ Number.plainText m.scale⟩

/-- The lines logged while `unit` is read.  Nothing past a fault has been looked up. -/
def parseLog (registry : Registry) (unit : String) : List Log.Line :=
  let text := unit.toList
  if text.all isBlank then []
  else
    match registry.read text with
    | .ok m => registry.splitLines text ++ [parsedLine unit m]
    | .error f => registry.splitLines (text.take (text.length - f.rest.length))

def startLine (registry : Registry) : Log.Line :=
  ⟨.debug, "unit registry initialized: " ++ toString registry.size ++ " units, " ++
    toString Prefix.all.length ++ " prefixes"⟩

end Registry

end Dimensional.Units
