/-!
Ports: reading them from text, and looking for one that is free.
-/

namespace Dimensional.Docs.Port

def max : Nat := 65535

inductive Problem where
  | empty
  | badDigit
  | tooLarge
deriving DecidableEq, Repr

def Problem.message : Problem → String
  | empty => "cannot parse integer from empty string"
  | badDigit => "invalid digit found in string"
  | tooLarge => "number too large to fit in target type"

/-- Reads on behind digits that make up `n`; the first fault counts. -/
def readDigits (n : Nat) : (digits : List Char) → Except Problem Nat
  | [] => .ok n
  | c :: rest =>
      if !c.isDigit then .error .badDigit
      else
        let n := n * 10 + (c.toNat - '0'.toNat)
        if max < n then .error .tooLarge else readDigits n rest

/-- A plus sign may stand in front of the digits. -/
def read (text : String) : Except Problem Nat :=
  match text.toList with
  | [] => .error .empty
  | ['+'] => .error .badDigit
  | '+' :: digits => readDigits 0 digits
  | digits => readDigits 0 digits

inductive Attempt where
  | listening
  | inUse
  | refused (cause : String)
deriving DecidableEq, Repr

inductive Miss where
  | refused (port : Nat) (cause : String)
  | allInUse
deriving DecidableEq, Repr

/-- The ports that were tried, in order, with what came of each, and the port that was found. -/
structure Search where
  tried : List (Nat × Attempt)
  result : Except Miss Nat

/-- Tries a port and up to `more` ports above it as long as they are in use. -/
def search (attempt : Nat → Attempt) (more port : Nat) : Search :=
  if max < port then ⟨[], .error .allInUse⟩
  else
    match attempt port with
    | .listening => ⟨[(port, .listening)], .ok port⟩
    | .refused cause => ⟨[(port, .refused cause)], .error (.refused port cause)⟩
    | .inUse =>
        match more with
        | 0 => ⟨[(port, .inUse)], .error .allInUse⟩
        | more + 1 =>
            let later := search attempt more (port + 1)
            ⟨(port, .inUse) :: later.tried, later.result⟩

end Dimensional.Docs.Port
