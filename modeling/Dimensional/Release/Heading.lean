import Dimensional.Text.Blank
import Dimensional.Text.Lines

/-!
Replacing the value of a key below a heading, line by line.  A line in single brackets is a
heading; the lines after it belong to it, whatever else they hold.
-/

namespace Dimensional.Release.Heading

open Text

def isBracket (c : Char) : Bool :=
  c == '[' || c == ']'

def stripBrackets (text : List Char) : List Char :=
  (((text.dropWhile isBracket).reverse).dropWhile isBracket).reverse

def isHeading : List Char → Bool
  | '[' :: '[' :: _ => false
  | '[' :: _ => true
  | _ => false

/-- The heading that holds from a line on, where `heading` held before it. -/
def after (heading line : List Char) : List Char :=
  if isHeading (trim line) then trim (stripBrackets (trim line)) else heading

def assigns (key line : List Char) : Bool :=
  key.isPrefixOf (trim line) && (trimStart ((trim line).drop key.length)).head? == some '='

def terminator (line : List Char) : List Char :=
  if ['\r', '\n'].isSuffixOf line then ['\r', '\n']
  else if ['\n'].isSuffixOf line then ['\n']
  else []

def indent (line : List Char) : List Char :=
  line.takeWhile isBlank

def assignment (key value line : List Char) : List Char :=
  indent line ++ key ++ [' ', '=', ' ', '"'] ++ value ++ ['"'] ++ terminator line

/-- Replaces the first line that assigns the key while `wanted` is the heading. -/
def replaceLine (wanted key value heading : List Char) :
    (lines : List (List Char)) → Option (List (List Char))
  | [] => none
  | line :: lines =>
      let heading := after heading line
      if heading = wanted && assigns key line then some (assignment key value line :: lines)
      else (replaceLine wanted key value heading lines).map (line :: ·)

def replace (text wanted key value : List Char) : Option (List Char) :=
  (replaceLine wanted key value [] (linesKept text)).map List.flatten

end Dimensional.Release.Heading
