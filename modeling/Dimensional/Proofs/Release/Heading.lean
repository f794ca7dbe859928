import Dimensional.Proofs.Text.Lines
import Dimensional.Release.Heading

/-!
What a replacement below a heading does to a text: one line is replaced, the first that assigns the
key while the heading holds, and it is found again in the new text.
-/

namespace Dimensional.Text

theorem trimStart_append_of_isBlank {blanks : List Char} (blank : ∀ c ∈ blanks, isBlank c = true)
    (text : List Char) : trimStart (blanks ++ text) = trimStart text :=
  List.dropWhile_append_of_pos blank

theorem trimEnd_append_of_isBlank (text : List Char) {blanks : List Char}
    (blank : ∀ c ∈ blanks, isBlank c = true) : trimEnd (text ++ blanks) = trimEnd text := by
  rw [trimEnd, List.reverse_append]
  exact congrArg List.reverse
    (trimStart_append_of_isBlank (fun c mem => blank c (List.mem_reverse.mp mem)) text.reverse)

theorem trimEnd_concat (text : List Char) {c : Char} (h : isBlank c = false) :
    trimEnd (text ++ [c]) = text ++ [c] := by
  rw [trimEnd, List.reverse_append, List.reverse_singleton, List.singleton_append,
    List.dropWhile_cons_of_neg (by simp [h]), List.reverse_cons, List.reverse_reverse]

/-- What is cut off at the end is blank. -/
theorem exists_trimEnd (text : List Char) :
    ∃ blanks, text = trimEnd text ++ blanks ∧ ∀ c ∈ blanks, isBlank c = true := by
  obtain ⟨blanks, whole, blank⟩ := exists_trimStart text.reverse
  refine ⟨blanks.reverse, ?_, fun c mem => blank c (List.mem_reverse.mp mem)⟩
  have := congrArg List.reverse whole
  rwa [List.reverse_reverse, List.reverse_append] at this

end Dimensional.Text

namespace Dimensional.Release.Heading

open Text

/-- A key that the search for lines can find: it has no blanks and no brackets. -/
structure IsKey (key : List Char) : Prop where
  ne_nil : key ≠ []
  solid : ∀ c ∈ key, isBlank c = false
  unbracketed : ∀ c ∈ key, isBracket c = false

namespace IsKey

variable {key : List Char}

theorem exists_cons (h : IsKey key) :
    ∃ c rest, key = c :: rest ∧ isBlank c = false ∧ isBracket c = false := by
  obtain ⟨ne, solid, unbracketed⟩ := h
  cases key with
  | nil => contradiction
  | cons c rest =>
      exact ⟨c, rest, rfl, solid c List.mem_cons_self, unbracketed c List.mem_cons_self⟩

theorem of_all (ne : key ≠ []) (clean : key.all (fun c => !isBlank c && !isBracket c) = true) :
    IsKey key := by
  simp only [List.all_eq_true, Bool.and_eq_true, Bool.not_eq_true'] at clean
  exact ⟨ne, fun c mem => (clean c mem).1, fun c mem => (clean c mem).2⟩

theorem newline_notMem (h : IsKey key) : '\n' ∉ key := by
  intro mem
  have := h.solid '\n' mem
  contradiction

end IsKey

/-! Lines that assign the key. -/

section Lines

variable {key line : List Char}

theorem indent_append_trimStart (line : List Char) : indent line ++ trimStart line = line :=
  List.takeWhile_append_dropWhile

theorem isBlank_of_mem_indent {c : Char} (h : c ∈ indent line) : isBlank c = true :=
  List.all_eq_true.mp List.all_takeWhile c h

theorem isBlank_of_mem_terminator {c : Char} (h : c ∈ terminator line) : isBlank c = true := by
  unfold terminator at h
  split at h
  · exact List.all_eq_true.mp (by decide : ['\r', '\n'].all isBlank = true) c h
  · split at h
    · exact List.all_eq_true.mp (by decide : ['\n'].all isBlank = true) c h
    · contradiction

/-- The key stands right behind the indentation. -/
theorem exists_of_assigns (h : assigns key line = true) :
    ∃ rest, line = indent line ++ key ++ rest := by
  rw [assigns, Bool.and_eq_true, List.isPrefixOf_iff_prefix] at h
  obtain ⟨rest, start⟩ := h.1
  obtain ⟨blanks, whole, -⟩ := exists_trimEnd (trimStart line)
  refine ⟨rest ++ blanks, ?_⟩
  rw [List.append_assoc, ← List.append_assoc key, start]
  exact (indent_append_trimStart line).symm.trans (congrArg (indent line ++ ·) whole)

theorem isHeading_cons {c : Char} (other : c ≠ '[') (rest : List Char) :
    isHeading (c :: rest) = false := by
  unfold isHeading
  split <;> simp_all

theorem isHeading_of_assigns (isKey : IsKey key) (h : assigns key line = true) :
    isHeading (trim line) = false := by
  obtain ⟨c, tail, rfl, -, unbracketed⟩ := isKey.exists_cons
  rw [assigns, Bool.and_eq_true, List.isPrefixOf_iff_prefix] at h
  obtain ⟨rest, start⟩ := h.1
  rw [← start, List.cons_append]
  apply isHeading_cons
  rintro rfl
  contradiction

/-- A line that assigns the key leaves the heading as it is. -/
theorem after_of_assigns (isKey : IsKey key) (h : assigns key line = true)
    (heading : List Char) : after heading line = heading := by
  rw [after, isHeading_of_assigns isKey h]
  exact if_neg Bool.false_ne_true

variable (value : List Char)

theorem trim_assignment (isKey : IsKey key) :
    trim (assignment key value line) = key ++ [' ', '=', ' ', '"'] ++ value ++ ['"'] := by
  obtain ⟨c, tail, rfl, solid, -⟩ := isKey.exists_cons
  rw [trim, assignment]
  simp only [List.append_assoc]
  rw [trimStart_append_of_isBlank fun _ => isBlank_of_mem_indent, List.cons_append,
    trimStart_of_not_isBlank _ solid]
  simp only [← List.append_assoc, ← List.cons_append]
  rw [trimEnd_append_of_isBlank _ fun _ => isBlank_of_mem_terminator,
    trimEnd_concat _ (by decide)]

theorem assigns_assignment (isKey : IsKey key) :
    assigns key (assignment key value line) = true := by
  rw [assigns, trim_assignment value isKey, Bool.and_eq_true]
  constructor
  · rw [List.isPrefixOf_iff_prefix]
    exact ⟨[' ', '=', ' ', '"'] ++ value ++ ['"'], by simp⟩
  · simp only [List.append_assoc]
    rw [List.drop_left]
    rfl

@[simp] theorem indent_assignment (isKey : IsKey key) :
    indent (assignment key value line) = indent line := by
  obtain ⟨c, tail, rfl, solid, -⟩ := isKey.exists_cons
  rw [assignment]
  simp only [List.append_assoc]
  rw [indent, List.takeWhile_append_of_pos fun _ => isBlank_of_mem_indent, List.cons_append,
    List.takeWhile_cons_of_neg (by simp [solid]), List.append_nil]

theorem terminator_cases (line : List Char) :
    terminator line = ['\r', '\n'] ∨ terminator line = ['\n'] ∨ terminator line = [] := by
  unfold terminator
  split
  · exact .inl rfl
  · split
    · exact .inr (.inl rfl)
    · exact .inr (.inr rfl)

@[simp] theorem terminator_assignment :
    terminator (assignment key value line) = terminator line := by
  rw [assignment]
  generalize indent line ++ key ++ [' ', '=', ' ', '"'] ++ value = front
  rcases terminator_cases line with h | h | h <;> rw [h] <;>
    simp [terminator, ← List.reverse_prefix]

@[simp] theorem assignment_assignment (isKey : IsKey key) (other : List Char) :
    assignment key other (assignment key value line) = assignment key other line := by
  rw [assignment, indent_assignment value isKey, terminator_assignment, assignment]

theorem closed_terminator (h : Closed line) : Closed (terminator line) := by
  obtain ⟨body, rfl, -⟩ := h
  unfold terminator
  split
  · exact ⟨['\r'], rfl, by decide⟩
  · exact ⟨[], by simp, List.not_mem_nil⟩

theorem terminator_of_unclosed (h : Unclosed line) : terminator line = [] := by
  have other {mark : List Char} (mem : '\n' ∈ mark) : ¬mark.isSuffixOf line = true := by
    rw [List.isSuffixOf_iff_suffix]
    exact fun suffix => h.2 (suffix.subset mem)
  rw [terminator, if_neg (other (by simp)), if_neg (other (by simp))]

/-- A line that assigns a key does not end within its indentation. -/
theorem newline_notMem_indent (isKey : IsKey key) (h : assigns key line = true)
    (ends : Closed line ∨ Unclosed line) : '\n' ∉ indent line := by
  obtain ⟨c, tail, rfl, -, -⟩ := isKey.exists_cons
  obtain ⟨rest, shape⟩ := exists_of_assigns h
  obtain ⟨body, whole, one⟩ | ⟨-, one⟩ := ends
  · have shape := whole.symm.trans shape
    rw [List.append_assoc, List.append_eq_append_iff] at shape
    obtain ⟨more, inside, last⟩ | ⟨more, inside, -⟩ := shape
    · have : more = [] := by
        cases more with
        | nil => rfl
        | cons d more => simp at last
      rwa [inside, this, List.append_nil]
    · exact fun mem => one (inside ▸ List.mem_append_left more mem)
  · exact fun mem => one ((List.takeWhile_prefix isBlank).subset mem)

variable (isKey : IsKey key) (assigned : assigns key line = true) (oneLine : '\n' ∉ value)
include isKey assigned oneLine

theorem closed_assignment (h : Closed line) : Closed (assignment key value line) := by
  have indented := newline_notMem_indent isKey assigned (.inl h)
  have solid := isKey.newline_notMem
  obtain ⟨front, ending, one⟩ := closed_terminator h
  refine ⟨indent line ++ key ++ [' ', '=', ' ', '"'] ++ value ++ ['"'] ++ front, ?_, ?_⟩
  · rw [assignment, ending, ← List.append_assoc]
  · simp [indented, solid, oneLine, one]

theorem unclosed_assignment (h : Unclosed line) : Unclosed (assignment key value line) := by
  have indented := newline_notMem_indent isKey assigned (.inr h)
  have solid := isKey.newline_notMem
  rw [assignment, terminator_of_unclosed h]
  exact ⟨by simp, by simp [indented, solid, oneLine]⟩

end Lines

/-! The line that is replaced. -/

/-- Whether a line assigns the key while the wanted heading holds. -/
def IsTarget (wanted key heading line : List Char) : Prop :=
  after heading line = wanted ∧ assigns key line = true

/-- The line behind these lines is the first that assigns the key while the heading holds. -/
structure IsCut (wanted key heading : List Char) (before : List (List Char)) (line : List Char) :
    Prop where
  target : IsTarget wanted key (before.foldl after heading) line
  first : ∀ earlier other later, before = earlier ++ other :: later →
    ¬IsTarget wanted key (earlier.foldl after heading) other

section Cut

variable {wanted key heading line : List Char} {before behind lines : List (List Char)}

theorem isCut_nil_iff : IsCut wanted key heading [] line ↔ IsTarget wanted key heading line := by
  constructor
  · exact fun cut => cut.target
  · exact fun target => ⟨target, fun _ _ _ none => by simp at none⟩

theorem isCut_cons_iff {other : List Char} :
    IsCut wanted key heading (other :: before) line ↔
      ¬IsTarget wanted key heading other ∧ IsCut wanted key (after heading other) before line := by
  constructor
  · rintro ⟨target, first⟩
    exact ⟨first [] other before rfl, target, fun earlier another later shape =>
      first (other :: earlier) another later (congrArg (other :: ·) shape)⟩
  · rintro ⟨notFirst, target, first⟩
    refine ⟨target, fun earlier another later shape => ?_⟩
    cases earlier with
    | nil =>
        obtain ⟨rfl, -⟩ := List.cons.inj shape
        exact notFirst
    | cons head earlier =>
        obtain ⟨rfl, rest⟩ := List.cons.inj shape
        exact first earlier another later rest

theorem replaceLine_eq_some_iff {value : List Char} {replaced : List (List Char)} :
    replaceLine wanted key value heading lines = some replaced ↔
      ∃ before line behind, lines = before ++ line :: behind ∧
        IsCut wanted key heading before line ∧
          replaced = before ++ assignment key value line :: behind := by
  induction lines generalizing heading replaced with
  | nil => simp [replaceLine]
  | cons first rest ih =>
      have decided : (after heading first = wanted && assigns key first) = true ↔
          IsTarget wanted key heading first := by
        simp [IsTarget]
      rw [replaceLine]
      split
      case isTrue target =>
        rw [decided] at target
        constructor
        · rintro ⟨⟩
          exact ⟨[], first, rest, rfl, isCut_nil_iff.mpr target, rfl⟩
        · rintro ⟨before, line, behind, shape, cut, rfl⟩
          cases before with
          | nil =>
              obtain ⟨rfl, rfl⟩ := List.cons.inj shape
              rfl
          | cons head before =>
              obtain ⟨rfl, -⟩ := List.cons.inj shape
              exact absurd target (isCut_cons_iff.mp cut).1
      case isFalse other =>
        rw [decided] at other
        simp only [Option.map_eq_some_iff, ih]
        constructor
        · rintro ⟨_, ⟨before, line, behind, rfl, cut, rfl⟩, rfl⟩
          exact ⟨first :: before, line, behind, rfl, isCut_cons_iff.mpr ⟨other, cut⟩, rfl⟩
        · rintro ⟨before, line, behind, shape, cut, rfl⟩
          cases before with
          | nil =>
              obtain ⟨rfl, rfl⟩ := List.cons.inj shape
              exact absurd (isCut_nil_iff.mp cut) other
          | cons head before =>
              obtain ⟨rfl, rfl⟩ := List.cons.inj shape
              exact ⟨_, ⟨before, line, behind, rfl, (isCut_cons_iff.mp cut).2, rfl⟩, rfl⟩

theorem IsCut.assignment (isKey : IsKey key) (cut : IsCut wanted key heading before line)
    (value : List Char) : IsCut wanted key heading before (assignment key value line) := by
  obtain ⟨⟨holds, assigned⟩, first⟩ := cut
  rw [after_of_assigns isKey assigned] at holds
  have again : assigns key (Heading.assignment key value line) = true :=
    assigns_assignment value isKey
  exact ⟨⟨(after_of_assigns isKey again _).trans holds, again⟩, first⟩

end Cut

section Replace

variable {text wanted key value out : List Char}

theorem replace_eq_some_iff :
    replace text wanted key value = some out ↔
      ∃ before line behind, linesKept text = before ++ line :: behind ∧
        IsCut wanted key [] before line ∧
          out = (before ++ assignment key value line :: behind).flatten := by
  simp only [replace, Option.map_eq_some_iff, replaceLine_eq_some_iff]
  constructor
  · rintro ⟨_, ⟨before, line, behind, shape, cut, rfl⟩, rfl⟩
    exact ⟨before, line, behind, shape, cut, rfl⟩
  · rintro ⟨before, line, behind, shape, cut, rfl⟩
    exact ⟨_, ⟨before, line, behind, shape, cut, rfl⟩, rfl⟩

/-- The new text is cut into lines as the old one was. -/
theorem linesKept_replaced {before behind : List (List Char)} {line : List Char}
    (isKey : IsKey key) (oneLine : '\n' ∉ value) (shape : linesKept text = before ++ line :: behind)
    (assigned : assigns key line = true) :
    linesKept (before ++ assignment key value line :: behind).flatten =
      before ++ assignment key value line :: behind := by
  have lines : AreLines (before ++ line :: behind) := shape ▸ areLines_linesKept text
  exact linesKept_flatten (lines.replace (closed_assignment value isKey assigned oneLine)
    (unclosed_assignment value isKey assigned oneLine))

/-- A second replacement replaces what the first one wrote. -/
theorem replace_replace (isKey : IsKey key) (oneLine : '\n' ∉ value)
    (h : replace text wanted key value = some out) (other : List Char) :
    replace out wanted key other = replace text wanted key other := by
  obtain ⟨before, line, behind, shape, cut, rfl⟩ := replace_eq_some_iff.mp h
  have kept := linesKept_replaced isKey oneLine shape cut.target.2
  have new : replace text wanted key other =
      some (before ++ assignment key other line :: behind).flatten :=
    replace_eq_some_iff.mpr ⟨before, line, behind, shape, cut, rfl⟩
  rw [new, replace_eq_some_iff]
  exact ⟨before, _, behind, kept, cut.assignment isKey value, by
    rw [assignment_assignment value isKey]⟩

end Replace

end Dimensional.Release.Heading
