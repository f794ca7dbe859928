import Dimensional.Text.Characters
import Dimensional.Toml.Item

/-!
TOML strings and keys.
-/

namespace Dimensional.Toml

/-- Takes something from the front of a text and leaves the rest. -/
abbrev Reader (α : Type) := List Char → Option (α × List Char)

def isGap (c : Char) : Bool :=
  c == ' ' || c == '\t'

def skipGap (text : List Char) : List Char :=
  text.dropWhile isGap

/-- Control characters other than the tab stand nowhere in a document. -/
def isPlain (c : Char) : Bool :=
  c == '\t' || (0x20 ≤ c.toNat && c.toNat != 0x7f)

def newline? : List Char → Option (List Char)
  | '\n' :: rest => some rest
  | '\r' :: '\n' :: rest => some rest
  | _ => none

namespace Quoted

def hexNumber? (digits : List Char) : Option Nat :=
  digits.foldlM (fun n c => (Text.hexValue? c).map (n * 16 + ·)) 0

/-- The character with a number, unless it is a surrogate or out of range. -/
def scalarValue? (n : Nat) : Option Char :=
  if n.isValidChar then some (Char.ofNat n) else none

def numbered? (width : Nat) : Reader (List Char) := fun text => do
  let digits := text.take width
  if digits.length ≠ width then none
  let c ← scalarValue? (← hexNumber? digits)
  some ([c], text.drop width)

def escape? : Reader (List Char)
  | 'u' :: rest => numbered? 4 rest
  | 'U' :: rest => numbered? 8 rest
  | '"' :: rest => some (['"'], rest)
  | '\\' :: rest => some (['\\'], rest)
  | 'b' :: rest => some (['\x08'], rest)
  | 'f' :: rest => some (['\x0c'], rest)
  | 'n' :: rest => some (['\n'], rest)
  | 'r' :: rest => some (['\r'], rest)
  | 't' :: rest => some (['\t'], rest)
  | _ => none

def plain? : Reader (List Char)
  | c :: rest => if isPlain c then some ([c], rest) else none
  | [] => none

def basicPiece? : Reader (List Char)
  | '\\' :: rest => escape? rest
  | text => plain? text

def isLineSpace (c : Char) : Bool :=
  isGap c || c == '\n'

/-- Skips the blanks and the ends of lines at the front. -/
def skipLines (text : List Char) : List Char :=
  match text with
  | '\r' :: '\n' :: rest => skipLines rest
  | c :: rest => if isLineSpace c then skipLines rest else c :: rest
  | [] => []

/-- A backslash at the end of a line joins it with the next text. -/
def joined? (text : List Char) : Option (List Char) :=
  (newline? (skipGap text)).map skipLines

def longBasicPiece? : Reader (List Char)
  | '\\' :: rest =>
      match joined? rest with
      | some rest => some ([], rest)
      | none => escape? rest
  | text =>
      match newline? text with
      | some rest => some (['\n'], rest)
      | none => plain? text

def longLiteralPiece? : Reader (List Char) := fun text =>
  match newline? text with
  | some rest => some (['\n'], rest)
  | none => plain? text

def shortEnd? (quote : Char) : Reader (List Char)
  | c :: rest => if c = quote then some ([], rest) else none
  | [] => none

/-- The three quotes that end a string; up to two more before them belong to it. -/
def longEnd? (quote : Char) : Reader (List Char) := fun text =>
  let run := (text.takeWhile (· == quote)).length
  if run < 3 then none
  else
    let own := min (run - 3) 2
    some (List.replicate own quote, text.drop (own + 3))

/-- The rest of a string, piece by piece to its end. -/
def body? (end? piece? : Reader (List Char)) (text : List Char) :
    Option (List Char × List Char) :=
  match end? text with
  | some last => some last
  | none =>
      match piece? text with
      | none => none
      | some (piece, rest) =>
          if rest.length < text.length then
            (body? end? piece? rest).map fun (body, rest) => (piece ++ body, rest)
          else none
termination_by text.length

/-- The end of a line right behind the opening quotes does not belong to the string. -/
def dropNewline (text : List Char) : List Char :=
  (newline? text).getD text

def short? : Reader (List Char)
  | '"' :: rest => body? (shortEnd? '"') basicPiece? rest
  | '\'' :: rest => body? (shortEnd? '\'') plain? rest
  | _ => none

def read? : Reader (List Char)
  | '"' :: '"' :: '"' :: rest => body? (longEnd? '"') longBasicPiece? (dropNewline rest)
  | '\'' :: '\'' :: '\'' :: rest => body? (longEnd? '\'') longLiteralPiece? (dropNewline rest)
  | text => short? text

end Quoted

namespace Key

def isBare (c : Char) : Bool :=
  c.isAlphanum || c == '_' || c == '-'

def part? : Reader String := fun text =>
  match text with
  | '"' :: _ | '\'' :: _ => (Quoted.short? text).map fun (key, rest) => (String.ofList key, rest)
  | _ =>
      let key := text.takeWhile isBare
      if key.isEmpty then none else some (String.ofList key, text.dropWhile isBare)

/-- The parts of a key, with blanks allowed around each. -/
def parts? (text : List Char) : Option (List String × List Char) :=
  match part? (skipGap text) with
  | none => none
  | some (part, rest) =>
      match skipGap rest with
      | '.' :: rest =>
          if rest.length < text.length then
            (parts? rest).map fun (parts, rest) => (part :: parts, rest)
          else none
      | rest => some ([part], rest)
termination_by text.length

/-- How many levels a document may have. -/
def maxDepth : Nat := 79

def read? : Reader (List String) := fun text => do
  let (parts, rest) ← parts? text
  if parts.length ≤ maxDepth then some (parts, rest) else none

end Key

end Dimensional.Toml
