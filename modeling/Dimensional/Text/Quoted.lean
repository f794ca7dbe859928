import Dimensional.Text.Visible

/-!
Quoted text, as messages and generated tables write it: between two marks, with the mark, the
backslash and every character without a visible form escaped.
-/

namespace Dimensional.Text.Quoted

def hexDigits (n : Nat) : List Char :=
  Nat.toDigits 16 n

def escape (mark c : Char) : List Char :=
  if c = '\t' then ['\\', 't']
  else if c = '\n' then ['\\', 'n']
  else if c = '\r' then ['\\', 'r']
  else if c.toNat = 0 then ['\\', '0']
  else if c = '\\' ∨ c = mark then ['\\', c]
  else if isVisible c then [c]
  else ['\\', 'u', '\x7b'] ++ hexDigits c.toNat ++ ['\x7d']

def write (mark : Char) (text : List Char) : List Char :=
  mark :: (text.flatMap (escape mark) ++ [mark])

end Dimensional.Text.Quoted

namespace Dimensional.Text

def quote (text : List Char) : List Char :=
  Quoted.write '"' text

def quoteChar (c : Char) : List Char :=
  Quoted.write '\'' [c]

@[simp] theorem quote_nil : quote [] = ['"', '"'] := rfl

def quoteString (text : String) : String :=
  String.ofList (quote text.toList)

def quoteCharString (c : Char) : String :=
  String.ofList (quoteChar c)

end Dimensional.Text
