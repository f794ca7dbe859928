/-!
Text cut at a character, and into lines.
-/

namespace Dimensional.Text

/-- The pieces between the occurrences of `mark`; one more than there are occurrences. -/
def splitAt (mark : Char) : List Char → List (List Char)
  | [] => [[]]
  | c :: rest =>
      if c = mark then [] :: splitAt mark rest
      else
        match splitAt mark rest with
        | [] => [[c]]
        | piece :: pieces => (c :: piece) :: pieces

theorem splitAt_ne_nil (mark : Char) (text : List Char) : splitAt mark text ≠ [] := by
  cases text with
  | nil => simp [splitAt]
  | cons c rest =>
      simp only [splitAt]
      split
      · simp
      · split <;> simp

/-- Each line with its terminator; only the last may lack one. -/
def linesKept (text : List Char) : List (List Char) :=
  match text with
  | [] => []
  | c :: rest =>
      if c = '\n' then ['\n'] :: linesKept rest
      else
        match linesKept rest with
        | [] => [[c]]
        | line :: lines => (c :: line) :: lines

@[simp] theorem flatten_linesKept (text : List Char) : (linesKept text).flatten = text := by
  induction text with
  | nil => rfl
  | cons c rest ih =>
      simp only [linesKept]
      split
      · simp_all
      · split <;> simp_all

end Dimensional.Text
