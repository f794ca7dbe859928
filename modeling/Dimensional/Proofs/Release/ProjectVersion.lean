import Mathlib.Data.List.Basic
import Dimensional.Proofs.Release.Manifest

/-!
The version that a CMake file declares, said without the search for it: the word behind the first
`VERSION` among the arguments of the first `project` call.  Writing a version replaces this word and
nothing else, and the new word is what is read and replaced from then on.
-/

namespace Dimensional.Release.ProjectCall

open Text

/-! Words, wherever they stand. -/

namespace Span

/-- The marked part is a word: blanks, or nothing at all, stand on both sides of it. -/
structure IsWord (span : Span) : Prop where
  before : span.before.getLast?.all isBlank = true
  ne_nil : span.word ≠ []
  solid : ∀ c ∈ span.word, isWordChar c = true
  behind : span.behind.head?.all isBlank = true

variable {first span inner : Span} {text : List Char}

theorem IsFirst.isWord (h : first.IsFirst) : first.IsWord where
  before := by
    cases last : first.before.getLast? with
    | none => rfl
    | some c => exact h.before c (List.mem_of_getLast? last)
  ne_nil := h.ne_nil
  solid := h.word
  behind := h.behind

theorem isBlank_of_isWordChar {c : Char} (h : isWordChar c = true) : isBlank c = false := by
  simpa [isWordChar] using h

theorem IsWord.exists_cons (h : span.IsWord) :
    ∃ c rest, span.word = c :: rest ∧ isBlank c = false := by
  obtain ⟨c, rest, shape⟩ := List.exists_cons_of_ne_nil h.ne_nil
  exact ⟨c, rest, shape, isBlank_of_isWordChar (h.solid c (shape ▸ List.mem_cons_self))⟩

/-- A text with a word in it has a first word. -/
theorem IsWord.word_firstWord_ne_nil (h : span.IsWord) : (firstWord span.text).word ≠ [] := by
  obtain ⟨c, rest, shape, solid⟩ := h.exists_cons
  have stops := List.head?_dropWhile_not isBlank span.text
  cases left : trimStart span.text with
  | nil =>
      obtain ⟨blanks, whole, blank⟩ := exists_trimStart span.text
      rw [left, List.append_nil] at whole
      have blank := blank c (whole ▸ by simp [Span.text, shape])
      rw [solid] at blank
      contradiction
  | cons d more =>
      rw [trimStart] at left
      rw [left] at stops
      have start : isWordChar d = true := by simpa [isWordChar] using stops
      rw [firstWord, trimStart, left, List.takeWhile_cons_of_pos start]
      exact List.cons_ne_nil d _

/-- Behind a first word, another word has a blank in front. -/
theorem IsWord.exists_concat (h : inner.IsWord) (start : inner.text.head?.all isBlank = true) :
    ∃ c, inner.before.getLast? = some c := by
  cases shape : inner.before with
  | nil =>
      obtain ⟨c, rest, word, solid⟩ := h.exists_cons
      simp [text, shape, word, solid] at start
  | cons c rest => exact ⟨_, List.getLast?_cons⟩

theorem IsWord.takeWhile_append (h : span.IsWord) :
    (span.word ++ span.behind).takeWhile isWordChar = span.word ∧
      (span.word ++ span.behind).dropWhile isWordChar = span.behind := by
  have stops := h.behind
  rw [List.takeWhile_append_of_pos h.solid, List.dropWhile_append_of_pos h.solid]
  cases shape : span.behind with
  | nil => exact ⟨List.append_nil _, rfl⟩
  | cons c rest => simp_all [isWordChar]

theorem IsWord.eq_of_append_eq (h : span.IsWord) (k : first.IsWord)
    (before : span.before = first.before)
    (same : span.word ++ span.behind = first.word ++ first.behind) : span = first := by
  obtain ⟨word, behind⟩ := h.takeWhile_append
  rw [same, k.takeWhile_append.1] at word
  rw [same, k.takeWhile_append.2] at behind
  obtain ⟨_, _, _⟩ := span
  obtain ⟨_, _, _⟩ := first
  simp_all

/-- A word of a text is its first word, or a word of what stands behind that. -/
theorem IsWord.eq_or_behind (h : span.IsWord) (isFirst : first.IsFirst)
    (same : span.text = first.text) :
    span = first ∨ ∃ inner : Span, inner.IsWord ∧ inner.text = first.behind ∧
      span = inner.moved (first.before ++ first.word) [] := by
  obtain ⟨c, rest, start, solid⟩ := h.exists_cons
  simp only [Span.text, List.append_assoc] at same
  rcases List.append_eq_append_iff.mp same with ⟨more, front, behind⟩ | ⟨more, front, behind⟩
  · -- The word cannot start among the blanks in front of the first word.
    cases more with
    | nil =>
        rw [List.append_nil] at front
        exact .inl (h.eq_of_append_eq isFirst.isWord front.symm behind)
    | cons d more =>
        rw [start] at behind
        obtain ⟨rfl, -⟩ := List.cons.inj behind
        have blank := isFirst.before c (front ▸ List.mem_append_right _ List.mem_cons_self)
        rw [solid] at blank
        contradiction
  · rcases List.append_eq_append_iff.mp behind.symm with ⟨tail, inside, -⟩ | ⟨lead, inside, last⟩
    · -- Nor can it start within the first word.
      rcases List.eq_nil_or_concat more with rfl | ⟨init, d, rfl⟩
      · rw [List.append_nil] at front
        exact .inl (h.eq_of_append_eq isFirst.isWord front behind.symm)
      · have blank := h.before
        rw [front, List.concat_eq_append, ← List.append_assoc, List.getLast?_concat] at blank
        have solid := isBlank_of_isWordChar (isFirst.word d (by simp [inside]))
        simp [solid] at blank
    · have innerText : (⟨lead, span.word, span.behind⟩ : Span).text = first.behind := by
        rw [last, Span.text, List.append_assoc]
      have innerStart : lead ≠ [] := by
        rintro rfl
        have stops := isFirst.behind
        simp [last, start, solid] at stops
      refine .inr ⟨⟨lead, span.word, span.behind⟩, { h with before := ?_ }, innerText, ?_⟩
      · have blank := h.before
        rw [front, inside, ← List.append_assoc] at blank
        rwa [List.getLast?_append_of_ne_nil _ innerStart] at blank
      · rw [Span.moved, List.append_nil, List.append_assoc, ← inside, ← front]

theorem IsWord.moved (h : inner.IsWord) (isFirst : first.IsFirst)
    (same : inner.text = first.behind) :
    (inner.moved (first.before ++ first.word) []).IsWord where
  before := by
    obtain ⟨c, last⟩ := h.exists_concat (same ▸ isFirst.behind)
    have blank := h.before
    rw [last] at blank
    rw [Span.moved, List.getLast?_append, last]
    exact blank
  ne_nil := h.ne_nil
  solid := h.solid
  behind := by
    rw [Span.moved, List.append_nil]
    exact h.behind

end Span

/-! The first keyword. -/

section Keyword

/-- The marked part is the keyword, as a word, and no such word stands in front of it. -/
structure IsKeyword (span : Span) (arguments : List Char) : Prop where
  text : span.text = arguments
  isWord : span.IsWord
  word : span.word = keyword
  first : ∀ other : Span, other.text = arguments → other.IsWord → other.word = keyword →
    span.before.length ≤ other.before.length

variable {first span key : Span} {arguments : List Char}

theorem length_before_moved (front back : List Char) (span : Span) :
    (span.moved front back).before.length = front.length + span.before.length :=
  List.length_append

/-- If the first word is the keyword, it is the first keyword. -/
theorem isKeyword_iff_of_eq (isFirst : first.IsFirst) (keyed : first.word = keyword) :
    IsKeyword key first.text ↔ key = first := by
  have ahead (inner : Span) :
      first.before.length < (inner.moved (first.before ++ first.word) []).before.length := by
    have := List.length_pos_iff.mpr isFirst.ne_nil
    rw [length_before_moved, List.length_append]
    omega
  constructor
  · intro h
    obtain rfl | ⟨inner, -, -, rfl⟩ := h.isWord.eq_or_behind isFirst h.text
    · rfl
    · exact absurd (h.first first rfl isFirst.isWord keyed) (Nat.not_le.mpr (ahead inner))
  · rintro rfl
    refine ⟨rfl, isFirst.isWord, keyed, fun other same isWord _ => ?_⟩
    obtain rfl | ⟨inner, -, -, rfl⟩ := isWord.eq_or_behind isFirst same
    · exact Nat.le_refl _
    · exact Nat.le_of_lt (ahead inner)

/-- Any other first word stands in front of the first keyword. -/
theorem isKeyword_iff_of_ne (isFirst : first.IsFirst) (unkeyed : first.word ≠ keyword) :
    IsKeyword key first.text ↔ ∃ inner, IsKeyword inner first.behind ∧
      key = inner.moved (first.before ++ first.word) [] := by
  have whole (inner : Span) (same : inner.text = first.behind) :
      (inner.moved (first.before ++ first.word) []).text = first.text := by
    rw [Span.text_moved, same, List.append_nil, Span.text]
  constructor
  · intro h
    obtain rfl | ⟨inner, isWord, same, rfl⟩ := h.isWord.eq_or_behind isFirst h.text
    · exact absurd h.word unkeyed
    · refine ⟨inner, ⟨same, isWord, h.word, fun other otherSame otherWord keyed => ?_⟩, rfl⟩
      have early := h.first _ (whole other otherSame) (otherWord.moved isFirst otherSame) keyed
      rwa [length_before_moved, length_before_moved, Nat.add_le_add_iff_left] at early
  · rintro ⟨inner, h, rfl⟩
    refine ⟨whole inner h.text, h.isWord.moved isFirst h.text, h.word, ?_⟩
    intro other same isWord keyed
    obtain rfl | ⟨another, anotherWord, anotherSame, rfl⟩ := isWord.eq_or_behind isFirst same
    · exact absurd keyed unkeyed
    · rw [length_before_moved, length_before_moved, Nat.add_le_add_iff_left]
      exact h.first another anotherSame anotherWord keyed

theorem version?_of_nil (empty : (Span.firstWord arguments).word = []) :
    version? arguments = none := by
  rw [version?]
  exact dif_pos empty

theorem moved_moved (front : List Char) (key inner : Span) :
    (inner.moved (key.before ++ key.word) []).moved front [] =
      inner.moved ((key.moved front []).before ++ (key.moved front []).word) [] := by
  simp [Span.moved]

theorem version?_eq_some_iff :
    version? arguments = some span ↔ ∃ key inner, IsKeyword key arguments ∧
      number? key.behind = some inner ∧ span = inner.moved (key.before ++ key.word) [] := by
  induction size : arguments.length using Nat.strongRecOn generalizing arguments span with
  | ind _ ih =>
      subst size
      by_cases ne : (Span.firstWord arguments).word = []
      · rw [version?_of_nil ne]
        refine iff_of_false nofun ?_
        rintro ⟨key, -, h, -⟩
        exact h.isWord.word_firstWord_ne_nil (h.text.symm ▸ ne)
      · have isFirst := Span.isFirst_firstWord ne
        have whole := Span.text_firstWord arguments
        rw [version?_of_ne_nil ne, Option.map_eq_some_iff]
        by_cases keyed : (Span.firstWord arguments).word = keyword
        · have keys (key : Span) := @isKeyword_iff_of_eq _ key isFirst keyed
          rw [whole] at keys
          simp only [if_pos keyed, keys]
          constructor
          · rintro ⟨inner, found, rfl⟩
            exact ⟨_, inner, rfl, found, rfl⟩
          · rintro ⟨_, inner, rfl, found, rfl⟩
            exact ⟨inner, found, rfl⟩
        · have keys (key : Span) := @isKeyword_iff_of_ne _ key isFirst keyed
          rw [whole] at keys
          simp only [if_neg keyed, keys, ih _ (Span.length_behind_firstWord ne) rfl]
          constructor
          · rintro ⟨_, ⟨key, inner, h, found, rfl⟩, rfl⟩
            refine ⟨_, inner, ⟨key, h, rfl⟩, ?_, moved_moved _ key inner⟩
            rwa [Span.moved, List.append_nil]
          · rintro ⟨_, inner, ⟨key, h, rfl⟩, found, rfl⟩
            rw [Span.moved, List.append_nil] at found
            exact ⟨_, ⟨key, inner, h, found, rfl⟩, moved_moved _ key inner⟩

end Keyword

/-! The first call. -/

/-- A call of the command: a name for it, a gap and a parenthesis behind a front. -/
structure Call where
  front : List Char
  name : List Char
  gap : List Char

namespace Call

/-- The text up to the parenthesis. -/
def opening (call : Call) : List Char :=
  call.front ++ call.name ++ call.gap ++ ['(']

/-- The text calls the command; `inName` says whether a name goes on where the text starts. -/
structure Opens (call : Call) (inName : Bool) (text arguments : List Char) : Prop where
  whole : call.opening ++ arguments = text
  named : call.name.map Char.toLower = command
  gaps : ∀ c ∈ call.gap, isGap c = true
  apart : call.front.getLast?.elim inName isNameChar = false

/-- No other call opens further in front. -/
structure IsFirst (call : Call) (inName : Bool) (text arguments : List Char) : Prop where
  opens : call.Opens inName text arguments
  first : ∀ (other : Call) (rest : List Char), other.Opens inName text rest →
    call.front.length ≤ other.front.length

variable {call : Call} {inName : Bool} {text cut arguments : List Char} {c : Char}

theorem opening?_eq_some_iff_opens :
    opening? text = some (cut, arguments) ↔
      ∃ name gap, (Call.mk [] name gap).Opens false text arguments ∧
        cut = (Call.mk [] name gap).opening := by
  rw [opening?_eq_some_iff]
  constructor
  · rintro ⟨name, gap, rfl, rfl, named, gaps⟩
    exact ⟨name, gap, ⟨by simp [opening], named, gaps, rfl⟩, rfl⟩
  · rintro ⟨name, gap, ⟨whole, named, gaps, -⟩, rfl⟩
    exact ⟨name, gap, by simp [← whole, opening], rfl, named, gaps⟩

theorem Opens.of_front_eq_nil (h : call.Opens inName text arguments) (none : call.front = []) :
    inName = false ∧ opening? text = some (call.opening, arguments) := by
  obtain ⟨_, name, gap⟩ := call
  obtain rfl : _ = [] := none
  obtain rfl : inName = false := h.apart
  exact ⟨rfl, opening?_eq_some_iff_opens.mpr ⟨name, gap, h, rfl⟩⟩

theorem opens_cons_iff {d : Char} {front name gap : List Char} :
    (Call.mk (d :: front) name gap).Opens inName (c :: text) arguments ↔
      d = c ∧ (Call.mk front name gap).Opens (isNameChar c) text arguments := by
  have apart (start : Bool) : ((d :: front).getLast?.elim start isNameChar) =
      front.getLast?.elim (isNameChar d) isNameChar := by
    rw [List.getLast?_cons]
    cases front.getLast? <;> rfl
  constructor
  · rintro ⟨whole, named, gaps, free⟩
    obtain ⟨rfl, rest⟩ := List.cons.inj whole
    exact ⟨rfl, rest, named, gaps, (apart inName).symm.trans free⟩
  · rintro ⟨rfl, whole, named, gaps, free⟩
    exact ⟨congrArg (d :: ·) whole, named, gaps, (apart inName).trans free⟩

/-- Where no call opens at the start, the first call of the rest is the first of all. -/
theorem isFirst_cons_iff (later : ∀ (call : Call) (rest : List Char),
      call.Opens inName (c :: text) rest → call.front ≠ []) :
    call.IsFirst inName (c :: text) arguments ↔
      ∃ inner : Call, inner.IsFirst (isNameChar c) text arguments ∧
        call = { inner with front := c :: inner.front } := by
  constructor
  · rintro ⟨opens, first⟩
    obtain ⟨front, name, gap⟩ := call
    obtain ⟨d, front, rfl⟩ := List.exists_cons_of_ne_nil (later _ _ opens)
    obtain ⟨rfl, opens⟩ := opens_cons_iff.mp opens
    refine ⟨⟨front, name, gap⟩, ⟨opens, fun other rest h => ?_⟩, rfl⟩
    have := first ⟨d :: other.front, other.name, other.gap⟩ rest (opens_cons_iff.mpr ⟨rfl, h⟩)
    exact Nat.le_of_succ_le_succ this
  · rintro ⟨⟨front, name, gap⟩, ⟨opens, first⟩, rfl⟩
    refine ⟨opens_cons_iff.mpr ⟨rfl, opens⟩, fun other rest h => ?_⟩
    obtain ⟨_, otherName, otherGap⟩ := other
    obtain ⟨d, otherFront, rfl⟩ := List.exists_cons_of_ne_nil (later _ _ h)
    exact Nat.succ_le_succ (first _ _ (opens_cons_iff.mp h).2)

end Call

theorem openCall?_eq_some_iff {inName : Bool} {text cut arguments : List Char} :
    openCall? inName text = some (cut, arguments) ↔
      ∃ call : Call, call.IsFirst inName text arguments ∧ cut = call.opening := by
  induction text generalizing inName cut arguments with
  | nil =>
      refine iff_of_false nofun ?_
      rintro ⟨call, ⟨⟨whole, -⟩, -⟩, -⟩
      simp [Call.opening] at whole
  | cons c text ih =>
      rw [openCall?]
      cases here : (if inName then none else opening? (c :: text)) with
      | some found =>
          obtain ⟨rfl, here⟩ : inName = false ∧ opening? (c :: text) = some found := by
            cases inName with
            | true => contradiction
            | false => exact ⟨rfl, here⟩
          obtain ⟨name, gap, opens, start⟩ := Call.opening?_eq_some_iff_opens.mp here
          constructor
          · rintro ⟨⟩
            exact ⟨⟨[], name, gap⟩, ⟨opens, fun _ _ _ => Nat.zero_le _⟩, start⟩
          · rintro ⟨call, ⟨h, first⟩, rfl⟩
            have none : call.front = [] := List.eq_nil_of_length_eq_zero
              (Nat.le_zero.mp (first ⟨[], name, gap⟩ _ opens))
            exact here.symm.trans (h.of_front_eq_nil none).2
      | none =>
          have later (call : Call) (rest : List Char) (h : call.Opens inName (c :: text) rest) :
              call.front ≠ [] := by
            intro none
            obtain ⟨rfl, found⟩ := h.of_front_eq_nil none
            rw [if_neg Bool.false_ne_true, found] at here
            contradiction
          simp only [Option.map_eq_some_iff, Call.isFirst_cons_iff later, Prod.exists, ih]
          constructor
          · rintro ⟨_, _, ⟨inner, first, rfl⟩, ⟨⟩⟩
            exact ⟨_, ⟨inner, first, rfl⟩, rfl⟩
          · rintro ⟨_, ⟨inner, first, rfl⟩, rfl⟩
            exact ⟨_, _, ⟨inner, first, rfl⟩, rfl⟩

/-! The version, between both. -/

/-- A text with a call in which a version is declared. -/
structure Declaration where
  call : Call
  /-- The arguments in front of the keyword. -/
  lead : List Char
  blanks : List Char
  version : List Char
  /-- The arguments behind the version. -/
  rest : List Char
  /-- What stands behind the closing parenthesis. -/
  back : List Char

namespace Declaration

/-- The keyword among the arguments. -/
def key (d : Declaration) : Span :=
  ⟨d.lead, keyword, d.blanks ++ d.version ++ d.rest⟩

/-- The version in the whole text. -/
def span (d : Declaration) : Span :=
  ⟨d.call.opening ++ d.lead ++ keyword ++ d.blanks, d.version, d.rest ++ ')' :: d.back⟩

/-- The version is the word behind the first keyword among the arguments of the first call. -/
structure IsIn (d : Declaration) (text : List Char) : Prop where
  call : d.call.IsFirst false text (d.key.text ++ ')' :: d.back)
  arguments : ')' ∉ d.key.text
  key : IsKeyword d.key d.key.text
  blanks : ∀ c ∈ d.blanks, isBlank c = true
  version : IsVersion d.version
  rest : d.rest.head?.all isBlank = true

variable {d : Declaration} {text : List Char} {span : Span}

theorem IsIn.text_span (h : d.IsIn text) : d.span.text = text := by
  rw [← h.call.opens.whole]
  simp [Declaration.span, Span.text, Declaration.key]

/-- The blanks, the version and the other arguments behind the keyword. -/
def value (d : Declaration) : Span :=
  ⟨d.blanks, d.version, d.rest⟩

theorem IsIn.isFirst_value (h : d.IsIn text) : d.value.IsFirst where
  before := h.blanks
  ne_nil := h.version.ne_nil
  word c mem := isWordChar_of_isVersionChar (h.version.chars c mem)
  behind := h.rest

theorem IsIn.number?_behind (h : d.IsIn text) : number? d.key.behind = some d.value := by
  rw [number?_eq_some_iff]
  exact ⟨(Span.firstWord_text h.isFirst_value).symm, h.version⟩

theorem moved_value (d : Declaration) :
    (d.value.moved (d.key.before ++ d.key.word) []).moved d.call.opening (')' :: d.back) =
      d.span := by
  simp [value, Span.moved, key, Declaration.span]

end Declaration

section Arguments

variable {arguments rest : List Char}

theorem cut_arguments (free : ')' ∉ arguments) (back : List Char) :
    (arguments ++ ')' :: back).takeWhile isOpen = arguments ∧
      (arguments ++ ')' :: back).dropWhile isOpen = ')' :: back := by
  have inside (c : Char) (mem : c ∈ arguments) : isOpen c = true := by
    rw [isOpen, bne_iff_ne]
    rintro rfl
    exact free mem
  rw [List.takeWhile_append_of_pos inside, List.dropWhile_append_of_pos inside]
  exact ⟨by simp [isOpen], by simp [isOpen]⟩

theorem close_notMem (rest : List Char) : ')' ∉ rest.takeWhile isOpen := by
  intro mem
  have := List.all_eq_true.mp List.all_takeWhile ')' mem
  contradiction

theorem exists_close (closed : rest.dropWhile isOpen ≠ []) :
    ∃ back, rest.dropWhile isOpen = ')' :: back := by
  obtain ⟨c, back, shape⟩ := List.exists_cons_of_ne_nil closed
  have stops := List.head?_dropWhile_not isOpen rest
  rw [shape] at stops
  obtain rfl : c = ')' := by simpa [isOpen] using stops
  exact ⟨back, shape⟩

end Arguments

/-- The search finds the version that the text declares. -/
theorem find?_eq_some_iff_declares {text : List Char} {span : Span} :
    find? text = some span ↔ ∃ d : Declaration, d.IsIn text ∧ span = d.span := by
  rw [find?_eq_some_iff]
  constructor
  · rintro ⟨front, rest, inner, opened, closed, found, rfl⟩
    obtain ⟨call, first, rfl⟩ := openCall?_eq_some_iff.mp opened
    obtain ⟨key, version, isKey, numbered, rfl⟩ := version?_eq_some_iff.mp found
    obtain ⟨rfl, isVersion⟩ := number?_eq_some_iff.mp numbered
    obtain ⟨back, shape⟩ := exists_close closed
    have isFirst := Span.isFirst_firstWord isVersion.ne_nil
    let d : Declaration := ⟨call, key.before, (Span.firstWord key.behind).before,
      (Span.firstWord key.behind).word, (Span.firstWord key.behind).behind, back⟩
    have keyed : d.key = key := by
      have behind : (Span.firstWord key.behind).text = key.behind := Span.text_firstWord key.behind
      rw [Span.text] at behind
      simp only [d, Declaration.key, behind, ← isKey.word]
    have cut : d.key.text = rest.takeWhile isOpen := keyed ▸ isKey.text
    refine ⟨d, ⟨?_, ?_, ?_, isFirst.before, isVersion, isFirst.behind⟩, ?_⟩
    · rw [cut, ← shape, List.takeWhile_append_dropWhile]
      exact first
    · rw [cut]
      exact close_notMem rest
    · rw [cut, keyed]
      exact isKey
    · rw [← d.moved_value, keyed, shape]
      rfl
  · rintro ⟨d, h, rfl⟩
    obtain ⟨inside, behind⟩ := cut_arguments h.arguments d.back
    refine ⟨d.call.opening, d.key.text ++ ')' :: d.back,
      d.value.moved (d.key.before ++ d.key.word) [], ?_, ?_, ?_, ?_⟩
    · exact openCall?_eq_some_iff.mpr ⟨d.call, h.call, rfl⟩
    · rw [behind]
      exact List.cons_ne_nil _ _
    · rw [inside]
      exact version?_eq_some_iff.mpr ⟨d.key, d.value, h.key, h.number?_behind, rfl⟩
    · rw [behind, d.moved_value]

end Dimensional.Release.ProjectCall

namespace Dimensional.Release.Package

open ProjectCall (Declaration IsVersion)

variable {text version out : String}

theorem readVersion?_cpp_eq_some_iff :
    cpp.readVersion? text = some version ↔
      ∃ d : Declaration, d.IsIn text.toList ∧ version.toList = d.version := by
  rw [readVersion?, heading?, Option.map_eq_some_iff]
  simp only [ProjectCall.find?_eq_some_iff_declares]
  constructor
  · rintro ⟨_, ⟨d, h, rfl⟩, rfl⟩
    exact ⟨d, h, String.toList_ofList⟩
  · rintro ⟨d, h, same⟩
    refine ⟨_, ⟨d, h, rfl⟩, ?_⟩
    rw [Declaration.span, ← same, String.ofList_toList]

theorem writeVersion?_cpp_eq_some_iff :
    cpp.writeVersion? text version = some out ↔
      ∃ d : Declaration, d.IsIn text.toList ∧
        out.toList = d.span.before ++ version.toList ++ d.span.behind := by
  rw [writeVersion?_of_none rfl, Option.map_eq_some_iff]
  simp only [ProjectCall.find?_eq_some_iff_declares]
  constructor
  · rintro ⟨_, ⟨d, h, rfl⟩, rfl⟩
    exact ⟨d, h, String.toList_ofList⟩
  · rintro ⟨d, h, same⟩
    refine ⟨_, ⟨d, h, rfl⟩, ?_⟩
    rw [← String.ofList_toList (s := out), same]
    rfl

/-- The new text has the version in the place of the declared one, and from there it is read and
replaced. -/
structure Replaces (text version out : String) : Prop where
  place : ∃ d : Declaration, d.IsIn text.toList ∧
    cpp.readVersion? text = some (String.ofList d.version) ∧
      text.toList = d.span.before ++ d.version ++ d.span.behind ∧
        out.toList = d.span.before ++ version.toList ++ d.span.behind
  read : cpp.readVersion? out = some version
  written : ∀ other, cpp.writeVersion? out other = cpp.writeVersion? text other

theorem replaces_of_writeVersion? (isVersion : IsVersion version.toList)
    (h : cpp.writeVersion? text version = some out) : Replaces text version out where
  place := by
    obtain ⟨d, declared, new⟩ := writeVersion?_cpp_eq_some_iff.mp h
    exact ⟨d, declared, readVersion?_cpp_eq_some_iff.mpr ⟨d, declared, String.toList_ofList⟩,
      declared.text_span.symm, new⟩
  read := readVersion?_writeVersion?_cpp isVersion h
  written := writeVersion?_writeVersion? isVersion h

/-- A CMake file in which a version is declared can be written, and no other. -/
theorem cpp_lawful (isVersion : IsVersion version.toList) :
    (∀ old, cpp.readVersion? text = some old ↔
        ∃ d : Declaration, d.IsIn text.toList ∧ old.toList = d.version) ∧
      ((cpp.writeVersion? text version).isSome = true ↔ (cpp.readVersion? text).isSome = true) ∧
      ∀ out, cpp.writeVersion? text version = some out → Replaces text version out := by
  refine ⟨fun _ => readVersion?_cpp_eq_some_iff, ?_, fun _ => replaces_of_writeVersion? isVersion⟩
  rw [readVersion?, writeVersion?, heading?, Option.isSome_map, Option.isSome_map]

theorem cpp_lawful_spacedCall :
    IsVersion "2.0".toList ∧
      cpp.writeVersion? "subproject(a) Project \t(VERSION\n0.1.0 b)" "2.0" =
        some "subproject(a) Project \t(VERSION\n2.0 b)" ∧
      Replaces "subproject(a) Project \t(VERSION\n0.1.0 b)" "2.0"
        "subproject(a) Project \t(VERSION\n2.0 b)" := by
  have isVersion : IsVersion "2.0".toList := ⟨by decide, List.all_eq_true.mp (by decide)⟩
  have written : cpp.writeVersion? "subproject(a) Project \t(VERSION\n0.1.0 b)" "2.0" =
      some "subproject(a) Project \t(VERSION\n2.0 b)" := by
    decide +kernel
  exact ⟨isVersion, written, (cpp_lawful isVersion).2.2 _ written⟩

end Dimensional.Release.Package
