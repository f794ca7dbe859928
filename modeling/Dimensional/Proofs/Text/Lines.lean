import Dimensional.Proofs.Text.Classes
import Dimensional.Text.Lines

/-!
Texts cut into lines and put together again.  A line may be replaced by one that ends as it does
without a change to the cut.
-/

namespace Dimensional.Text

theorem splitAt_append (mark : Char) (front behind : List Char) :
    splitAt mark (front ++ mark :: behind) = splitAt mark front ++ splitAt mark behind := by
  induction front with
  | nil => simp [splitAt]
  | cons c front ih =>
      rw [List.cons_append, splitAt, splitAt, ih]
      split
      · rfl
      · cases pieces : splitAt mark front with
        | nil => exact absurd pieces (splitAt_ne_nil mark front)
        | cons piece pieces => rfl

theorem splitAt_of_notMem {mark : Char} {text : List Char} (free : mark ∉ text) :
    splitAt mark text = [text] := by
  induction text with
  | nil => rfl
  | cons c text ih =>
      rw [List.mem_cons, not_or] at free
      rw [splitAt, if_neg (Ne.symm free.1), ih free.2]

theorem notMem_of_mem_splitAt {mark : Char} {text piece : List Char}
    (h : piece ∈ splitAt mark text) : mark ∉ piece := by
  induction text generalizing piece with
  | nil =>
      obtain rfl := List.mem_singleton.mp h
      exact List.not_mem_nil
  | cons c text ih =>
      rw [splitAt] at h
      split at h
      case isTrue =>
        rcases List.mem_cons.mp h with rfl | h
        · exact List.not_mem_nil
        · exact ih h
      case isFalse other =>
        cases pieces : splitAt mark text with
        | nil => exact absurd pieces (splitAt_ne_nil mark text)
        | cons first pieces' =>
            rw [pieces] at h ih
            rcases List.mem_cons.mp h with rfl | h
            · rw [List.mem_cons, not_or]
              exact ⟨Ne.symm other, ih List.mem_cons_self⟩
            · exact ih (List.mem_cons_of_mem _ h)

section Pieces

variable {mark : Char} {text piece : List Char} {index : Nat}

/-- A piece that marks, or the ends of the text, part from the others; `index` marks stand in front
of it. -/
structure PieceAt (mark : Char) (text : List Char) (index : Nat) (piece : List Char) : Prop where
  free : mark ∉ piece
  split : ∃ front behind, text = front ++ (piece ++ behind) ∧ front.count mark = index ∧
    (front = [] ∨ ∃ before, front = before ++ [mark]) ∧
      (behind = [] ∨ ∃ after, behind = mark :: after)

theorem length_splitAt (mark : Char) (text : List Char) :
    (splitAt mark text).length = text.count mark + 1 := by
  induction text with
  | nil => rfl
  | cons c text ih =>
      rw [splitAt]
      split
      case isTrue same => rw [List.length_cons, ih, same, List.count_cons_self]
      case isFalse other =>
        obtain ⟨first, others, pieces⟩ := List.exists_cons_of_ne_nil (splitAt_ne_nil mark text)
        rw [List.count_cons_of_ne other, ← ih, pieces]
        rfl

theorem PieceAt.getElem?_splitAt (h : PieceAt mark text index piece) :
    (splitAt mark text)[index]? = some piece := by
  obtain ⟨free, front, behind, rfl, rfl, starts, ends⟩ := h
  have first : (splitAt mark (piece ++ behind))[0]? = some piece := by
    obtain rfl | ⟨after, rfl⟩ := ends
    · rw [List.append_nil, splitAt_of_notMem free, List.getElem?_cons_zero]
    · rw [splitAt_append, splitAt_of_notMem free]
      rfl
  obtain rfl | ⟨before, rfl⟩ := starts
  · exact first
  · rw [List.append_assoc, List.singleton_append, splitAt_append, List.count_append,
      List.count_singleton_self, ← length_splitAt, List.getElem?_append_right (Nat.le_refl _),
      Nat.sub_self, first]

namespace PieceAt

theorem nil (mark : Char) : PieceAt mark [] 0 [] :=
  ⟨List.not_mem_nil, [], [], rfl, rfl, .inl rfl, .inl rfl⟩

theorem empty (mark : Char) (text : List Char) : PieceAt mark (mark :: text) 0 [] :=
  ⟨List.not_mem_nil, [], mark :: text, rfl, rfl, .inl rfl, .inr ⟨text, rfl⟩⟩

theorem cons_mark (h : PieceAt mark text index piece) :
    PieceAt mark (mark :: text) (index + 1) piece := by
  obtain ⟨free, front, behind, rfl, rfl, starts, ends⟩ := h
  refine ⟨free, mark :: front, behind, rfl, List.count_cons_self, .inr ?_, ends⟩
  obtain rfl | ⟨before, rfl⟩ := starts
  · exact ⟨[], rfl⟩
  · exact ⟨mark :: before, rfl⟩

/-- The first piece grows by a character that is no mark. -/
theorem cons_first {c : Char} (h : PieceAt mark text 0 piece) (other : c ≠ mark) :
    PieceAt mark (c :: text) 0 (c :: piece) := by
  obtain ⟨free, front, behind, rfl, none, starts, ends⟩ := h
  obtain rfl | ⟨before, rfl⟩ := starts
  · exact ⟨List.not_mem_cons_of_ne_of_not_mem other.symm free, [], behind, rfl, rfl, .inl rfl, ends⟩
  · simp at none

theorem cons_later {c : Char} (h : PieceAt mark text (index + 1) piece) (other : c ≠ mark) :
    PieceAt mark (c :: text) (index + 1) piece := by
  obtain ⟨free, front, behind, rfl, counted, starts, ends⟩ := h
  obtain rfl | ⟨before, rfl⟩ := starts
  · simp at counted
  · refine ⟨free, c :: (before ++ [mark]), behind, rfl, ?_, .inr ⟨c :: before, rfl⟩, ends⟩
    rw [List.count_cons_of_ne other, counted]

end PieceAt

theorem pieceAt_of_getElem? (h : (splitAt mark text)[index]? = some piece) :
    PieceAt mark text index piece := by
  induction text generalizing index piece with
  | nil =>
      cases index with
      | zero =>
          obtain rfl := Option.some.inj h
          exact .nil mark
      | succ index => cases h
  | cons c text ih =>
      obtain ⟨first, others, pieces⟩ := List.exists_cons_of_ne_nil (splitAt_ne_nil mark text)
      rw [splitAt] at h
      split at h
      case isTrue same =>
        subst same
        cases index with
        | zero =>
            obtain rfl := Option.some.inj h
            exact .empty c text
        | succ index => exact (ih h).cons_mark
      case isFalse other =>
        rw [pieces] at h ih
        cases index with
        | zero =>
            obtain rfl := Option.some.inj h
            exact PieceAt.cons_first (@ih first 0 rfl) other
        | succ index => exact PieceAt.cons_later (@ih piece (index + 1) h) other

theorem getElem?_splitAt_iff :
    (splitAt mark text)[index]? = some piece ↔ PieceAt mark text index piece :=
  ⟨pieceAt_of_getElem?, PieceAt.getElem?_splitAt⟩

theorem mem_of_mem_splitAt {c : Char} (isPiece : piece ∈ splitAt mark text) (mem : c ∈ piece) :
    c ∈ text := by
  obtain ⟨index, found⟩ := List.mem_iff_getElem?.mp isPiece
  obtain ⟨-, front, behind, rfl, -⟩ := pieceAt_of_getElem? found
  exact List.mem_append_right front (List.mem_append_left behind mem)

end Pieces

/-- A line with its terminator. -/
def Closed (line : List Char) : Prop :=
  ∃ body, line = body ++ ['\n'] ∧ '\n' ∉ body

/-- A line without a terminator. -/
def Unclosed (line : List Char) : Prop :=
  line ≠ [] ∧ '\n' ∉ line

/-- Only the last line may lack its terminator. -/
inductive AreLines : List (List Char) → Prop
  | nil : AreLines []
  | last {line : List Char} (last : Unclosed line) : AreLines [line]
  | cons {line : List Char} {lines : List (List Char)} (first : Closed line)
      (more : AreLines lines) : AreLines (line :: lines)

theorem AreLines.cons_char {c : Char} {line : List Char} {lines : List (List Char)}
    (h : AreLines (line :: lines)) (other : c ≠ '\n') : AreLines ((c :: line) :: lines) := by
  cases h with
  | last last =>
      exact .last ⟨List.cons_ne_nil c line, List.not_mem_cons_of_ne_of_not_mem other.symm last.2⟩
  | cons first more =>
      obtain ⟨body, rfl, one⟩ := first
      exact .cons ⟨c :: body, rfl, List.not_mem_cons_of_ne_of_not_mem other.symm one⟩ more

theorem areLines_linesKept (text : List Char) : AreLines (linesKept text) := by
  induction text with
  | nil => exact .nil
  | cons c rest ih =>
      rw [linesKept]
      split
      · exact .cons ⟨[], rfl, List.not_mem_nil⟩ ih
      · rename_i other
        split
        · exact .last ⟨List.cons_ne_nil c [], by simpa using Ne.symm other⟩
        · rename_i found
          exact (found ▸ ih).cons_char other

theorem linesKept_unclosed {line : List Char} (h : Unclosed line) : linesKept line = [line] := by
  obtain ⟨ne, one⟩ := h
  induction line with
  | nil => contradiction
  | cons c rest ih =>
      obtain ⟨other, one⟩ := List.ne_and_not_mem_of_not_mem_cons one
      rw [linesKept, if_neg other.symm]
      cases rest with
      | nil => rfl
      | cons d rest => rw [ih (List.cons_ne_nil d rest) one]

theorem linesKept_closed {body : List Char} (one : '\n' ∉ body) (rest : List Char) :
    linesKept (body ++ '\n' :: rest) = (body ++ ['\n']) :: linesKept rest := by
  induction body with
  | nil => rfl
  | cons c body ih =>
      obtain ⟨other, one⟩ := List.ne_and_not_mem_of_not_mem_cons one
      rw [List.cons_append, linesKept, if_neg other.symm, ih one]
      rfl

theorem linesKept_flatten {lines : List (List Char)} (h : AreLines lines) :
    linesKept lines.flatten = lines := by
  induction h with
  | nil => rfl
  | last last => rw [List.flatten_singleton, linesKept_unclosed last]
  | cons first more ih =>
      obtain ⟨body, rfl, one⟩ := first
      rw [List.flatten_cons, List.append_assoc, List.singleton_append, linesKept_closed one, ih]

theorem linesKept_ne_nil {text : List Char} (h : text ≠ []) : linesKept text ≠ [] := by
  intro none
  rw [← flatten_linesKept text, none] at h
  contradiction

theorem linesKept_append_newline (front behind : List Char) :
    linesKept (front ++ '\n' :: behind) = linesKept (front ++ ['\n']) ++ linesKept behind := by
  induction front with
  | nil => rfl
  | cons c front ih =>
      rw [List.cons_append, List.cons_append, linesKept, linesKept, ih]
      split
      · rfl
      · obtain ⟨line, lines, shape⟩ :=
          List.exists_cons_of_ne_nil (linesKept_ne_nil (List.concat_ne_nil '\n' front))
        rw [shape]
        rfl

theorem areLines_cons_iff {line : List Char} {lines : List (List Char)} :
    AreLines (line :: lines) ↔ Closed line ∧ AreLines lines ∨ Unclosed line ∧ lines = [] := by
  constructor
  · intro h
    cases h with
    | last last => exact .inr ⟨last, rfl⟩
    | cons first more => exact .inl ⟨first, more⟩
  · rintro (⟨first, more⟩ | ⟨last, rfl⟩)
    · exact .cons first more
    · exact .last last

theorem areLines_of_closed {lines : List (List Char)} (closed : ∀ line ∈ lines, Closed line) :
    AreLines lines := by
  induction lines with
  | nil => exact .nil
  | cons line lines ih =>
      rw [List.forall_mem_cons] at closed
      exact .cons closed.1 (ih closed.2)

section Replace

variable {before behind : List (List Char)} {line other : List Char}

theorem AreLines.of_append (h : AreLines (before ++ line :: behind)) :
    AreLines (line :: behind) := by
  induction before with
  | nil => exact h
  | cons first before ih =>
      rw [List.cons_append, areLines_cons_iff] at h
      obtain ⟨-, more⟩ | ⟨-, none⟩ := h
      · exact ih more
      · simp at none

theorem AreLines.replace (h : AreLines (before ++ line :: behind))
    (closed : Closed line → Closed other) (unclosed : Unclosed line → Unclosed other) :
    AreLines (before ++ other :: behind) := by
  induction before with
  | nil =>
      rw [List.nil_append, areLines_cons_iff] at h ⊢
      exact h.imp (And.imp_left closed) (And.imp_left unclosed)
  | cons first before ih =>
      rw [List.cons_append, areLines_cons_iff] at h
      obtain ⟨first, more⟩ | ⟨-, none⟩ := h
      · exact .cons first (ih more)
      · simp at none

end Replace

end Dimensional.Text
