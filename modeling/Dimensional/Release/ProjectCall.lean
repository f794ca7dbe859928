import Dimensional.Text.Blank

/-!
The version in a CMake `project` call: the word behind the first `VERSION` among its arguments.
-/

namespace Dimensional.Release.ProjectCall

open Text

/-- A text with a part of it marked. -/
structure Span where
  before : List Char
  word : List Char
  behind : List Char
deriving DecidableEq

namespace Span

def text (span : Span) : List Char :=
  span.before ++ span.word ++ span.behind

def replace (span : Span) (word : List Char) : Span :=
  { span with word }

/-- The same part in a longer text. -/
def moved (front : List Char) (span : Span) (back : List Char) : Span :=
  ⟨front ++ span.before, span.word, span.behind ++ back⟩

@[simp] theorem text_moved (front back : List Char) (span : Span) :
    (span.moved front back).text = front ++ span.text ++ back := by
  simp [moved, text]

def isWordChar (c : Char) : Bool :=
  !isBlank c

/-- The first word of a text; there is none when the word is empty. -/
def firstWord (text : List Char) : Span :=
  ⟨text.takeWhile isBlank, (trimStart text).takeWhile isWordChar,
    (trimStart text).dropWhile isWordChar⟩

@[simp] theorem text_firstWord (text : List Char) : (firstWord text).text = text := by
  simp [firstWord, Span.text, trimStart, List.append_assoc]

theorem length_behind_firstWord {text : List Char} (h : (firstWord text).word ≠ []) :
    (firstWord text).behind.length < text.length := by
  have whole := congrArg List.length (text_firstWord text)
  have := List.length_pos_iff.mpr h
  simp only [Span.text, List.length_append] at whole
  omega

end Span

def isNameChar (c : Char) : Bool :=
  c.isAlphanum || c == '_'

def isGap (c : Char) : Bool :=
  c == ' ' || c == '\t'

def command : List Char := "project".toList

/-- The command, in any case, and the opening parenthesis, if the text starts with them. -/
def opening? (text : List Char) : Option (List Char × List Char) :=
  let name := text.take command.length
  let rest := text.drop command.length
  match rest.dropWhile isGap with
  | '(' :: arguments =>
      if name.map Char.toLower = command then
        some (name ++ rest.takeWhile isGap ++ ['('], arguments)
      else none
  | _ => none

theorem append_of_opening? {text front arguments : List Char}
    (h : opening? text = some (front, arguments)) : front ++ arguments = text := by
  simp only [opening?] at h
  split at h
  · rename_i behind found
    split at h
    · simp only [Option.some.injEq, Prod.mk.injEq] at h
      obtain ⟨rfl, rfl⟩ := h
      simp only [List.append_assoc, List.singleton_append, ← found,
        List.takeWhile_append_dropWhile, List.take_append_drop]
    · contradiction
  · contradiction

/-- Cuts a text behind the parenthesis that opens the first `project` call.  `inName` says whether
a name goes on here. -/
def openCall? (inName : Bool) : (text : List Char) → Option (List Char × List Char)
  | [] => none
  | c :: rest =>
      match if inName then none else opening? (c :: rest) with
      | some cut => some cut
      | none =>
          (openCall? (isNameChar c) rest).map fun (front, arguments) => (c :: front, arguments)

theorem append_of_openCall? {inName : Bool} {text front arguments : List Char}
    (h : openCall? inName text = some (front, arguments)) : front ++ arguments = text := by
  induction text generalizing inName front with
  | nil => simp [openCall?] at h
  | cons c rest ih =>
      simp only [openCall?] at h
      split at h
      · rename_i cut found
        split at found
        · contradiction
        · exact append_of_opening? (found.trans h)
      · obtain ⟨⟨inner, _⟩, found, same⟩ := Option.map_eq_some_iff.mp h
        simp only [Prod.mk.injEq] at same
        obtain ⟨rfl, rfl⟩ := same
        simp [ih found]

def isVersionChar (c : Char) : Bool :=
  c.isDigit || c == '.'

/-- The first word, if it is made of digits and points. -/
def number? (text : List Char) : Option Span :=
  let first := Span.firstWord text
  if !first.word.isEmpty && first.word.all isVersionChar then some first else none

def keyword : List Char := "VERSION".toList

/-- The word behind the first `VERSION`. -/
def version? (arguments : List Char) : Option Span :=
  let first := Span.firstWord arguments
  if h : first.word = [] then none
  else
    have := Span.length_behind_firstWord h
    let rest := if first.word = keyword then number? first.behind else version? first.behind
    rest.map (·.moved (first.before ++ first.word) [])
termination_by arguments.length

theorem text_of_number? {text : List Char} {span : Span} (h : number? text = some span) :
    span.text = text := by
  simp only [number?] at h
  split at h
  · rw [← Option.some.inj h, Span.text_firstWord]
  · contradiction

theorem text_of_version? {arguments : List Char} {span : Span}
    (h : version? arguments = some span) : span.text = arguments := by
  fun_induction version? arguments generalizing span with
  | case1 => contradiction
  | case2 arguments first _ _ rest =>
      rename_i ih
      obtain ⟨inner, found, rfl⟩ := Option.map_eq_some_iff.mp h
      have whole := Span.text_firstWord arguments
      have behind : inner.text = first.behind := by
        simp only [rest] at found
        split at found
        · exact text_of_number? found
        · exact ih found
      rw [Span.text_moved, behind]
      simpa [Span.text] using whole

def isOpen (c : Char) : Bool :=
  c != ')'

/-- The arguments run to the first closing parenthesis, which must be there. -/
def find? (text : List Char) : Option Span := do
  let (front, rest) ← openCall? false text
  let back := rest.dropWhile isOpen
  if back.isEmpty then none
  else (version? (rest.takeWhile isOpen)).map (·.moved front back)

end Dimensional.Release.ProjectCall
