import Mathlib.Data.List.Basic
import Mathlib.Tactic.Tauto
import Dimensional.Proofs.Release.Heading
import Dimensional.Proofs.Release.ProjectCall

/-!
The line that a replacement below a heading rewrites, said without the search for it: the first
that assigns the key while the latest heading line names the wanted section.  Every other line
stays as it is, and what is written last counts.
-/

namespace Dimensional.Text

/-! Texts stripped of a class of characters at both ends. -/

section Strip

variable {p : Char → Bool} {left middle right : List Char}

def strip (p : Char → Bool) (text : List Char) : List Char :=
  ((text.dropWhile p).reverse.dropWhile p).reverse

theorem dropWhile_append_of_free (stripped : ∀ c ∈ left, p c = true) (ne : middle ≠ [])
    (free : ∀ c ∈ middle, p c = false) (right : List Char) :
    (left ++ (middle ++ right)).dropWhile p = middle ++ right := by
  obtain ⟨c, rest, rfl⟩ := List.exists_cons_of_ne_nil ne
  have stops : ¬p c = true := Bool.eq_false_iff.mp (free c List.mem_cons_self)
  rw [List.dropWhile_append_of_pos stripped, List.cons_append, List.dropWhile_cons_of_neg stops]

theorem strip_append (front : ∀ c ∈ left, p c = true) (behind : ∀ c ∈ right, p c = true)
    (ne : middle ≠ []) (free : ∀ c ∈ middle, p c = false) :
    strip p (left ++ middle ++ right) = middle := by
  have back : (right.reverse ++ (middle.reverse ++ [])).dropWhile p = middle.reverse ++ [] :=
    dropWhile_append_of_free (fun c mem => behind c (List.mem_reverse.mp mem))
      (mt List.reverse_eq_nil_iff.mp ne) (fun c mem => free c (List.mem_reverse.mp mem)) []
  rw [List.append_nil] at back
  rw [strip, List.append_assoc, dropWhile_append_of_free front ne free, List.reverse_append, back,
    List.reverse_reverse]

theorem exists_strip (p : Char → Bool) (text : List Char) :
    ∃ left right, text = left ++ strip p text ++ right ∧ (∀ c ∈ left, p c = true) ∧
      ∀ c ∈ right, p c = true := by
  have back : text.dropWhile p =
      strip p text ++ ((text.dropWhile p).reverse.takeWhile p).reverse := by
    rw [strip, ← List.reverse_append, List.takeWhile_append_dropWhile, List.reverse_reverse]
  refine ⟨text.takeWhile p, ((text.dropWhile p).reverse.takeWhile p).reverse, ?_,
    List.all_eq_true.mp List.all_takeWhile, fun c mem => ?_⟩
  · rw [List.append_assoc, ← back, List.takeWhile_append_dropWhile]
  · exact List.all_eq_true.mp List.all_takeWhile c (List.mem_reverse.mp mem)

end Strip

end Dimensional.Text

namespace Dimensional.Release.Heading

open Text
open ProjectCall (isVersionChar)

variable {wanted key value line text out : List Char} {before : List (List Char)}

/-! Lines that start a section. -/

section Sections

/-- One bracket, and not two, comes first on the line once it is trimmed. -/
structure StartsSection (line : List Char) : Prop where
  bracket : ∃ rest, trim line = '[' :: rest
  single : ¬∃ rest, trim line = '[' :: '[' :: rest

/-- The name of the section is what the line holds within outer brackets, and blanks in these. -/
def Names (line wanted : List Char) : Prop :=
  ∃ left front behind right, trim line = left ++ (front ++ wanted ++ behind) ++ right ∧
    (∀ c ∈ left ++ right, isBracket c = true) ∧ ∀ c ∈ front ++ behind, isBlank c = true

/-- The latest of these lines that starts a section names this one. -/
def Holds (wanted : List Char) (before : List (List Char)) : Prop :=
  ∃ earlier start later, before = earlier ++ start :: later ∧ StartsSection start ∧
    Names start wanted ∧ ∀ line ∈ later, ¬StartsSection line

theorem isHeading_iff : isHeading (trim line) = true ↔ StartsSection line := by
  constructor
  · intro h
    unfold isHeading at h
    split at h
    · contradiction
    · rename_i rest single shape
      refine ⟨⟨rest, shape⟩, fun ⟨more, double⟩ => single more ?_⟩
      exact (List.cons.inj (shape.symm.trans double)).2
    · contradiction
  · rintro ⟨⟨rest, shape⟩, single⟩
    unfold isHeading
    split
    · rename_i more double
      exact absurd ⟨more, double⟩ single
    · rfl
    · rename_i other
      exact absurd shape (other rest)

theorem isBracket_of_isBlank {c : Char} (h : isBlank c = true) : isBracket c = false := by
  rw [Bool.eq_false_iff]
  intro bracket
  obtain rfl | rfl : c = '[' ∨ c = ']' := by simpa [isBracket] using bracket
  · contradiction
  · contradiction

theorem trim_stripBrackets_eq_iff (isKey : IsKey wanted) :
    trim (stripBrackets (trim line)) = wanted ↔ Names line wanted := by
  change strip isBlank (strip isBracket (trim line)) = wanted ↔ _
  constructor
  · intro named
    obtain ⟨left, right, whole, opened, closed⟩ := exists_strip isBracket (trim line)
    obtain ⟨front, behind, inside, padded, filled⟩ :=
      exists_strip isBlank (strip isBracket (trim line))
    rw [named] at inside
    rw [inside] at whole
    exact ⟨left, front, behind, right, whole, List.forall_mem_append.mpr ⟨opened, closed⟩,
      List.forall_mem_append.mpr ⟨padded, filled⟩⟩
  · rintro ⟨left, front, behind, right, whole, brackets, blanks⟩
    obtain ⟨opened, closed⟩ := List.forall_mem_append.mp brackets
    obtain ⟨padded, filled⟩ := List.forall_mem_append.mp blanks
    have free (c : Char) (mem : c ∈ front ++ wanted ++ behind) : isBracket c = false := by
      rw [List.mem_append, List.mem_append] at mem
      obtain (mem | mem) | mem := mem
      · exact isBracket_of_isBlank (padded c mem)
      · exact isKey.unbracketed c mem
      · exact isBracket_of_isBlank (filled c mem)
    rw [whole, strip_append opened closed (by simp [isKey.ne_nil]) free,
      strip_append padded filled isKey.ne_nil isKey.solid]

theorem after_eq_iff (isKey : IsKey wanted) (heading : List Char) :
    after heading line = wanted ↔
      StartsSection line ∧ Names line wanted ∨ ¬StartsSection line ∧ heading = wanted := by
  rw [after]
  split
  case isTrue starts =>
    have starts := isHeading_iff.mp starts
    simp [starts, trim_stripBrackets_eq_iff isKey]
  case isFalse other =>
    have other := mt isHeading_iff.mpr other
    simp [other]

theorem holds_cons_iff :
    Holds wanted (line :: before) ↔ Holds wanted before ∨
      StartsSection line ∧ Names line wanted ∧ ∀ other ∈ before, ¬StartsSection other := by
  constructor
  · rintro ⟨earlier, start, later, shape, starts, names, last⟩
    cases earlier with
    | nil =>
        obtain ⟨rfl, rfl⟩ := List.cons.inj shape
        exact .inr ⟨starts, names, last⟩
    | cons first earlier =>
        obtain ⟨rfl, rfl⟩ := List.cons.inj shape
        exact .inl ⟨earlier, start, later, rfl, starts, names, last⟩
  · rintro (⟨earlier, start, later, rfl, starts, names, last⟩ | ⟨starts, names, last⟩)
    · exact ⟨line :: earlier, start, later, rfl, starts, names, last⟩
    · exact ⟨[], line, before, rfl, starts, names, last⟩

theorem foldl_after_eq_iff (isKey : IsKey wanted) (heading : List Char) :
    before.foldl after heading = wanted ↔
      Holds wanted before ∨ (∀ line ∈ before, ¬StartsSection line) ∧ heading = wanted := by
  induction before generalizing heading with
  | nil =>
      have none : ¬Holds wanted [] := by
        rintro ⟨earlier, start, later, shape, -⟩
        simp at shape
      simp [none]
  | cons line before ih =>
      rw [List.foldl_cons, ih, after_eq_iff isKey, holds_cons_iff, List.forall_mem_cons]
      tauto

end Sections

/-! The line that assigns the key. -/

section Target

/-- Once trimmed, the line is the key, blanks and an equals sign, with anything behind them. -/
def Assigns (key line : List Char) : Prop :=
  ∃ blanks rest, trim line = key ++ blanks ++ '=' :: rest ∧ ∀ c ∈ blanks, isBlank c = true

theorem assigns_iff : assigns key line = true ↔ Assigns key line := by
  rw [assigns, Bool.and_eq_true, List.isPrefixOf_iff_prefix, beq_iff_eq]
  constructor
  · rintro ⟨⟨behind, shape⟩, equals⟩
    rw [← shape, List.drop_left] at equals
    obtain ⟨blanks, whole, blank⟩ := exists_trimStart behind
    obtain ⟨rest, start⟩ := List.head?_eq_some_iff.mp equals
    refine ⟨blanks, rest, ?_, blank⟩
    rw [← shape, List.append_assoc, ← start, ← whole]
  · rintro ⟨blanks, rest, shape, blank⟩
    rw [shape, List.append_assoc, List.drop_left]
    refine ⟨List.prefix_append key _, ?_⟩
    rw [trimStart_append_of_isBlank blank]
    rfl

theorem isTarget_iff (isSection : IsKey wanted) (isKey : IsKey key) :
    IsTarget wanted key (before.foldl after []) line ↔ Holds wanted before ∧ Assigns key line := by
  rw [IsTarget, assigns_iff]
  apply and_congr_left
  intro assigned
  rw [after_of_assigns isKey (assigns_iff.mpr assigned), foldl_after_eq_iff isSection]
  exact or_iff_left fun h => isSection.ne_nil h.2.symm

/-- The line behind these assigns the key in the section, and none of these does. -/
structure IsKeyLine (wanted key : List Char) (before : List (List Char)) (line : List Char) :
    Prop where
  holds : Holds wanted before
  assigns : Assigns key line
  first : ∀ earlier other later, before = earlier ++ other :: later →
    ¬(Holds wanted earlier ∧ Assigns key other)

theorem isCut_iff (isSection : IsKey wanted) (isKey : IsKey key) :
    IsCut wanted key [] before line ↔ IsKeyLine wanted key before line := by
  have targets (before : List (List Char)) (line : List Char) :=
    @isTarget_iff wanted key line before isSection isKey
  constructor
  · rintro ⟨target, first⟩
    obtain ⟨holds, assigned⟩ := (targets before line).mp target
    exact ⟨holds, assigned, fun earlier other later shape =>
      mt (targets earlier other).mpr (first earlier other later shape)⟩
  · rintro ⟨holds, assigned, first⟩
    exact ⟨(targets before line).mpr ⟨holds, assigned⟩, fun earlier other later shape =>
      mt (targets earlier other).mp (first earlier other later shape)⟩

end Target

/-! A line that assigns the key in the section is found. -/

section Found

variable {heading : List Char} {lines : List (List Char)}

/-- Where a line assigns the key, one does it first. -/
theorem exists_isCut_iff :
    (∃ before line behind, lines = before ++ line :: behind ∧
        IsCut wanted key heading before line) ↔
      ∃ before line behind, lines = before ++ line :: behind ∧
        IsTarget wanted key (before.foldl after heading) line := by
  constructor
  · rintro ⟨before, line, behind, shape, cut⟩
    exact ⟨before, line, behind, shape, cut.target⟩
  · rintro ⟨before, line, behind, shape, target⟩
    induction before generalizing heading lines with
    | nil => exact ⟨[], line, behind, shape, isCut_nil_iff.mpr target⟩
    | cons first before ih =>
        by_cases early : IsTarget wanted key heading first
        · exact ⟨[], first, before ++ line :: behind, shape, isCut_nil_iff.mpr early⟩
        · obtain ⟨others, found, rest, same, cut⟩ := ih rfl target
          rw [List.cons_append, same] at shape
          exact ⟨first :: others, found, rest, shape, isCut_cons_iff.mpr ⟨early, cut⟩⟩

theorem replace_isSome_iff {value : List Char} :
    (replace text wanted key value).isSome = true ↔
      ∃ before line behind, linesKept text = before ++ line :: behind ∧
        IsTarget wanted key (before.foldl after []) line := by
  rw [← exists_isCut_iff, Option.isSome_iff_exists]
  simp only [replace_eq_some_iff]
  constructor
  · rintro ⟨-, before, line, behind, shape, cut, -⟩
    exact ⟨before, line, behind, shape, cut⟩
  · rintro ⟨before, line, behind, shape, cut⟩
    exact ⟨_, before, line, behind, shape, cut, rfl⟩

end Found

/-! What the line becomes. -/

section Rewritten

/-- How a line ends: with both marks, with one, or without any. -/
inductive Ends : List Char → List Char → Prop
  | both {body : List Char} : Ends body ['\r', '\n']
  | one {body : List Char} (single : body.getLast? ≠ some '\r') : Ends body ['\n']
  | none {body : List Char} (last : '\n' ∉ body) : Ends body []

/-- The value in a line that keeps its indentation and its end. -/
structure IsRewritten (key value line new : List Char) : Prop where
  shape : ∃ indent rest terminator, line = indent ++ (key ++ rest) ++ terminator ∧
    (∀ c ∈ indent, isBlank c = true) ∧ Ends (indent ++ (key ++ rest)) terminator ∧
      new = indent ++ (key ++ " = \"".toList ++ value ++ ['"']) ++ terminator

variable {body : List Char}

theorem terminator_suffix (line : List Char) : terminator line <:+ line := by
  unfold terminator
  split
  case isTrue both => exact List.isSuffixOf_iff_suffix.mp both
  case isFalse =>
    split
    case isTrue one => exact List.isSuffixOf_iff_suffix.mp one
    case isFalse => exact List.nil_suffix

theorem ends_terminator (ends : Closed line ∨ Unclosed line)
    (whole : line = body ++ terminator line) : Ends body (terminator line) := by
  unfold terminator at whole ⊢
  split at whole
  case isTrue both =>
    rw [if_pos both]
    exact .both
  case isFalse notBoth =>
    rw [if_neg notBoth]
    rw [List.isSuffixOf_iff_suffix] at notBoth
    split at whole
    case isTrue one =>
      rw [if_pos one]
      refine .one fun carriage => notBoth ?_
      obtain ⟨front, rfl⟩ := List.getLast?_eq_some_iff.mp carriage
      exact ⟨front, by rw [whole, List.append_assoc]; rfl⟩
    case isFalse notOne =>
      rw [if_neg notOne]
      rw [List.append_nil] at whole
      subst whole
      obtain ⟨front, rfl, -⟩ | ⟨-, last⟩ := ends
      · exact absurd (List.isSuffixOf_iff_suffix.mpr ⟨front, rfl⟩) notOne
      · exact .none last

/-- The end of the line, which is blank, does not reach into the key. -/
theorem exists_of_assigns_terminator (isKey : IsKey key) (assigned : assigns key line = true) :
    ∃ rest, line = indent line ++ (key ++ rest) ++ terminator line := by
  obtain ⟨tail, shape⟩ := exists_of_assigns assigned
  obtain ⟨body, whole⟩ := terminator_suffix line
  obtain ⟨more, inside, ending⟩ | ⟨rest, inside, -⟩ :=
    List.append_eq_append_iff.mp (whole.trans shape)
  · obtain rfl | ⟨front, d, rfl⟩ := List.eq_nil_or_concat more
    · rw [List.append_nil] at inside
      exact ⟨[], by rw [List.append_nil, inside, whole]⟩
    · have last : key.getLast? = some d := by
        rw [← List.getLast?_append_of_ne_nil (indent line) isKey.ne_nil, inside,
          List.concat_eq_append, ← List.append_assoc, List.getLast?_concat]
      have inEnding : d ∈ terminator line := by simp [ending]
      have blank := isBlank_of_mem_terminator inEnding
      rw [isKey.solid d (List.mem_of_getLast? last)] at blank
      contradiction
  · exact ⟨rest, by rw [← List.append_assoc, ← inside, whole]⟩

theorem isRewritten_assignment (isKey : IsKey key) (assigned : assigns key line = true)
    (ends : Closed line ∨ Unclosed line) (value : List Char) :
    IsRewritten key value line (assignment key value line) := by
  obtain ⟨rest, whole⟩ := exists_of_assigns_terminator isKey assigned
  refine ⟨indent line, rest, terminator line, whole, fun _ => isBlank_of_mem_indent,
    ends_terminator ends whole, ?_⟩
  simp [assignment]

end Rewritten

/-! The whole text. -/

section Replaced

/-- The new text has the value in the first line that assigns the key in the section, keeps every
other line, and takes another value as the old text does. -/
structure Rewrites (text wanted key value out : List Char) : Prop where
  line : ∃ before line new behind, linesKept text = before ++ line :: behind ∧
    linesKept out = before ++ new :: behind ∧ IsKeyLine wanted key before line ∧
      IsRewritten key value line new
  last : ∀ other, replace out wanted key other = replace text wanted key other

theorem rewrites_of_replace (isSection : IsKey wanted) (isKey : IsKey key) (oneLine : '\n' ∉ value)
    (h : replace text wanted key value = some out) : Rewrites text wanted key value out where
  line := by
    obtain ⟨before, line, behind, shape, cut, rfl⟩ := replace_eq_some_iff.mp h
    have assigned := cut.target.2
    have lines : AreLines (line :: behind) := (shape ▸ areLines_linesKept text).of_append
    have ends : Closed line ∨ Unclosed line := (areLines_cons_iff.mp lines).imp And.left And.left
    exact ⟨before, line, assignment key value line, behind, shape,
      linesKept_replaced isKey oneLine shape assigned, (isCut_iff isSection isKey).mp cut,
      isRewritten_assignment isKey assigned ends value⟩
  last := replace_replace isKey oneLine h

theorem replace_eq_none_iff (isSection : IsKey wanted) (isKey : IsKey key) :
    replace text wanted key value = none ↔
      ¬∃ before line behind, linesKept text = before ++ line :: behind ∧
        Holds wanted before ∧ Assigns key line := by
  have targets (before : List (List Char)) (line : List Char) :=
    @isTarget_iff wanted key line before isSection isKey
  rw [← Option.not_isSome_iff_eq_none, replace_isSome_iff]
  simp only [targets]

theorem replace_rewrites (isSection : IsKey wanted) (isKey : IsKey key)
    (version : ∀ c ∈ value, isVersionChar c = true) :
    (replace text wanted key value = none ↔
        ¬∃ before line behind, linesKept text = before ++ line :: behind ∧
          Holds wanted before ∧ Assigns key line) ∧
      ∀ out, replace text wanted key value = some out → Rewrites text wanted key value out := by
  have oneLine : '\n' ∉ value := ProjectCall.newline_notMem version
  exact ⟨replace_eq_none_iff isSection isKey, fun _ => rewrites_of_replace isSection isKey oneLine⟩

theorem replace_rewrites_indented :
    IsKey "project".toList ∧ IsKey "version".toList ∧
      (∀ c ∈ "2.0".toList, isVersionChar c = true) ∧
        Rewrites "[[project]]\nversion = 0\n[ project ]\r\n\tversion= '1' # old\r\n".toList
          "project".toList "version".toList "2.0".toList
          "[[project]]\nversion = 0\n[ project ]\r\n\tversion = \"2.0\"\r\n".toList := by
  have isSection : IsKey "project".toList := .of_all (by decide) (by decide)
  have isKey : IsKey "version".toList := .of_all (by decide) (by decide)
  have version : ∀ c ∈ "2.0".toList, isVersionChar c = true := List.all_eq_true.mp (by decide)
  exact ⟨isSection, isKey, version,
    (replace_rewrites isSection isKey version).2 _ (by decide +kernel)⟩

end Replaced

end Dimensional.Release.Heading
