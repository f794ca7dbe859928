import Dimensional.Proofs.Text.Classes
import Dimensional.Release.ProjectCall

/-!
The version in a `project` call is found again after another version has taken its place.
-/

namespace Dimensional.Release.ProjectCall

open Text

/-- Digits and points, at least one of them. -/
structure IsVersion (word : List Char) : Prop where
  ne_nil : word ≠ []
  chars : ∀ c ∈ word, isVersionChar c = true

theorem isVersionChar_cases {c : Char} (h : isVersionChar c = true) :
    c.isDigit = true ∨ c = '.' := by
  simpa [isVersionChar] using h

theorem isWordChar_of_isVersionChar {c : Char} (h : isVersionChar c = true) :
    Span.isWordChar c = true := by
  obtain digit | rfl := isVersionChar_cases h
  · simp [Span.isWordChar, isBlank_of_isDigit digit]
  · decide

theorem isOpen_of_isVersionChar {c : Char} (h : isVersionChar c = true) : isOpen c = true := by
  rw [isOpen, bne_iff_ne]
  rintro rfl
  contradiction

theorem newline_notMem {word : List Char} (chars : ∀ c ∈ word, isVersionChar c = true) :
    '\n' ∉ word := by
  intro mem
  have := chars '\n' mem
  contradiction

namespace Span

/-- The marked part is the first word. -/
structure IsFirst (span : Span) : Prop where
  before : ∀ c ∈ span.before, isBlank c = true
  ne_nil : span.word ≠ []
  word : ∀ c ∈ span.word, isWordChar c = true
  behind : span.behind.head?.all isBlank = true

variable {span : Span}

theorem isFirst_firstWord {text : List Char} (h : (firstWord text).word ≠ []) :
    (firstWord text).IsFirst where
  before := List.all_eq_true.mp List.all_takeWhile
  ne_nil := h
  word := List.all_eq_true.mp List.all_takeWhile
  behind := by
    have := List.head?_dropWhile_not isWordChar (trimStart text)
    cases found : (firstWord text).behind.head? with
    | none => rfl
    | some c =>
        rw [firstWord] at found
        simpa [found, isWordChar] using this

theorem firstWord_text (h : span.IsFirst) : firstWord span.text = span := by
  obtain ⟨before, word, behind⟩ := span
  obtain ⟨blank, ne, solid, stops⟩ := h
  cases word with
  | nil => contradiction
  | cons c word =>
      have first : isBlank c = false := by
        simpa [isWordChar] using solid c List.mem_cons_self
      have rest : trimStart (before ++ (c :: word ++ behind)) = c :: word ++ behind := by
        rw [trimStart, List.dropWhile_append_of_pos blank]
        exact trimStart_of_not_isBlank _ first
      have last : behind.takeWhile isWordChar = [] ∧ behind.dropWhile isWordChar = behind := by
        cases behind with
        | nil => exact ⟨rfl, rfl⟩
        | cons d behind => simp_all [isWordChar]
      rw [firstWord, text, List.append_assoc, rest, List.takeWhile_append_of_pos blank,
        List.takeWhile_append_of_pos solid, List.dropWhile_append_of_pos solid, last.1, last.2,
        List.cons_append, List.takeWhile_cons_of_neg (by simp [first]), List.append_nil,
        List.append_nil]

theorem IsFirst.replace (h : span.IsFirst) {word : List Char} (isVersion : IsVersion word) :
    (span.replace word).IsFirst where
  before := h.before
  ne_nil := isVersion.ne_nil
  word _ mem := isWordChar_of_isVersionChar (isVersion.chars _ mem)
  behind := h.behind

@[simp] theorem replace_replace (span : Span) (word other : List Char) :
    (span.replace word).replace other = span.replace other := rfl

@[simp] theorem replace_moved (front back : List Char) (span : Span) (word : List Char) :
    (span.moved front back).replace word = (span.replace word).moved front back := rfl

end Span

/-! The words behind the keyword. -/

section Version

variable {text arguments word : List Char} {span : Span}

theorem number?_eq_some_iff :
    number? text = some span ↔ span = Span.firstWord text ∧ IsVersion span.word := by
  simp only [number?]
  split
  case isTrue h =>
    simp only [Bool.and_eq_true, Bool.not_eq_true', List.isEmpty_eq_false_iff,
      List.all_eq_true] at h
    constructor
    · rintro ⟨⟩
      exact ⟨rfl, h.1, h.2⟩
    · rintro ⟨rfl, -⟩
      rfl
  case isFalse h =>
    constructor
    · intro found
      contradiction
    · rintro ⟨rfl, ne, chars⟩
      simp [List.isEmpty_eq_false_iff, ne, List.all_eq_true.mpr chars] at h

/-- Behind a word, the version has a blank in front. -/
theorem before_ne_nil_of_number? (h : number? text = some span)
    (start : text.head?.all isBlank = true) : span.before ≠ [] := by
  obtain ⟨rfl, ne, -⟩ := number?_eq_some_iff.mp h
  cases text with
  | nil => exact absurd rfl ne
  | cons c rest =>
      have blank : isBlank c = true := by simpa using start
      rw [Span.firstWord, List.takeWhile_cons_of_pos blank]
      exact List.cons_ne_nil c _

theorem version?_of_ne_nil (ne : (Span.firstWord arguments).word ≠ []) :
    version? arguments =
      (if (Span.firstWord arguments).word = keyword then
        number? (Span.firstWord arguments).behind
      else version? (Span.firstWord arguments).behind).map
        (·.moved ((Span.firstWord arguments).before ++ (Span.firstWord arguments).word) []) := by
  rw [version?]
  exact dif_neg ne

theorem before_ne_nil_of_version? (h : version? arguments = some span) : span.before ≠ [] := by
  rw [version?] at h
  split at h
  · contradiction
  · rename_i ne
    obtain ⟨inner, -, rfl⟩ := Option.map_eq_some_iff.mp h
    simp [Span.moved, ne]

theorem number?_text_replace (isVersion : IsVersion word) (h : number? text = some span) :
    number? (span.replace word).text = some (span.replace word) := by
  obtain ⟨rfl, ne, -⟩ := number?_eq_some_iff.mp h
  have first := (Span.isFirst_firstWord ne).replace isVersion
  exact number?_eq_some_iff.mpr ⟨(Span.firstWord_text first).symm, isVersion⟩

theorem version?_text_replace (isVersion : IsVersion word) (h : version? arguments = some span) :
    version? (span.replace word).text = some (span.replace word) := by
  fun_induction version? arguments generalizing span with
  | case1 => contradiction
  | case2 arguments first ne _ rest =>
      rename_i ih
      obtain ⟨inner, found, rfl⟩ := Option.map_eq_some_iff.mp h
      have isFirst : first.IsFirst := Span.isFirst_firstWord ne
      have behind : inner.text = first.behind := by
        simp only [rest] at found
        split at found
        · exact text_of_number? found
        · exact text_of_version? found
      have start : inner.before ≠ [] := by
        simp only [rest] at found
        split at found
        · exact before_ne_nil_of_number? found isFirst.behind
        · exact before_ne_nil_of_version? found
      -- The first word stays what it is: a blank still follows it.
      have again : Span.firstWord (first.before ++ first.word ++ (inner.replace word).text) =
          ⟨first.before, first.word, (inner.replace word).text⟩ := by
        let inserted : Span := ⟨first.before, first.word, (inner.replace word).text⟩
        refine inserted.firstWord_text { isFirst with behind := ?_ }
        have stops := isFirst.behind
        obtain ⟨c, before, shape⟩ := List.exists_cons_of_ne_nil start
        rw [← behind] at stops
        simpa [inserted, Span.text, Span.replace, shape] using stops
      rw [Span.replace_moved, Span.text_moved, List.append_nil,
        version?_of_ne_nil (again.symm ▸ ne), again]
      refine Option.map_eq_some_iff.mpr ⟨inner.replace word, ?_, rfl⟩
      simp only [rest] at found
      split at found
      case isTrue keyed => rw [if_pos keyed, number?_text_replace isVersion found]
      case isFalse other => rw [if_neg other, ih found]

end Version

/-! The call. -/

section Call

variable {text front arguments : List Char}

theorem length_of_map_eq_command {name : List Char} (h : name.map Char.toLower = command) :
    name.length = 7 := by
  rw [← List.length_map, h]
  rfl

theorem opening?_eq_some_iff :
    opening? text = some (front, arguments) ↔
      ∃ name gap, text = name ++ gap ++ '(' :: arguments ∧ front = name ++ gap ++ ['('] ∧
        name.map Char.toLower = command ∧ ∀ c ∈ gap, isGap c = true := by
  constructor
  · intro h
    have whole := append_of_opening? h
    rw [opening?] at h
    split at h
    · split at h
      · rename_i called
        simp only [Option.some.injEq, Prod.mk.injEq] at h
        obtain ⟨rfl, rfl⟩ := h
        refine ⟨_, _, ?_, rfl, called, List.all_eq_true.mp List.all_takeWhile⟩
        simpa using whole.symm
      · contradiction
    · contradiction
  · rintro ⟨name, gap, rfl, rfl, called, gaps⟩
    have short : command.length = name.length := (length_of_map_eq_command called).symm
    have rest : (gap ++ '(' :: arguments).dropWhile isGap = '(' :: arguments ∧
        (gap ++ '(' :: arguments).takeWhile isGap = gap := by
      rw [List.dropWhile_append_of_pos gaps, List.takeWhile_append_of_pos gaps]
      simp [isGap]
    rw [opening?, short, List.append_assoc, List.take_left, List.drop_left, rest.1, rest.2]
    exact if_pos called

/-- No parenthesis stands in front of the one that opens the call. -/
theorem open_notMem {name gap : List Char} (called : name.map Char.toLower = command)
    (gaps : ∀ c ∈ gap, isGap c = true) : '(' ∉ name ++ gap := by
  rw [List.mem_append]
  rintro (mem | mem)
  · have := List.mem_map_of_mem (f := Char.toLower) mem
    rw [called] at this
    revert this
    decide
  · have := gaps _ mem
    contradiction

theorem opening?_append (h : opening? text = some (front, arguments)) (other : List Char) :
    opening? (front ++ other) = some (front, other) := by
  obtain ⟨name, gap, -, rfl, called, gaps⟩ := opening?_eq_some_iff.mp h
  exact opening?_eq_some_iff.mpr ⟨name, gap, by simp, rfl, called, gaps⟩

/-- Whether a call opens is decided at the first parenthesis. -/
theorem opening?_eq_none_append (start other arguments : List Char)
    (h : opening? (start ++ '(' :: arguments) = none) :
    opening? (start ++ '(' :: other) = none := by
  rw [Option.eq_none_iff_forall_ne_some] at h ⊢
  rintro ⟨front, behind⟩ found
  obtain ⟨name, gap, shape, rfl, called, gaps⟩ := opening?_eq_some_iff.mp found
  obtain ⟨more, inside⟩ : ∃ more, start ++ ['('] = name ++ gap ++ '(' :: more := by
    have free := open_notMem called gaps
    rw [List.append_eq_append_iff] at shape
    obtain ⟨more, inside, rest⟩ | ⟨more, inside, rest⟩ := shape
    · cases more with
      | nil => exact ⟨[], by rw [inside, List.append_nil]⟩
      | cons c more =>
          obtain ⟨rfl, -⟩ := List.cons.inj rest
          exact absurd (inside ▸ List.mem_append_right start List.mem_cons_self) free
    · cases more with
      | nil => exact ⟨[], by rw [inside, List.append_nil]⟩
      | cons c more =>
          obtain ⟨rfl, -⟩ := List.cons.inj rest
          exact ⟨more ++ ['('], by rw [inside, List.append_assoc, List.cons_append]⟩
  refine h (name ++ gap ++ ['('], more ++ arguments) (opening?_eq_some_iff.mpr
    ⟨name, gap, ?_, rfl, called, gaps⟩)
  have := congrArg (· ++ arguments) inside
  simpa using this

theorem exists_concat_of_openCall? {inName : Bool}
    (h : openCall? inName text = some (front, arguments)) : ∃ start, front = start ++ ['('] := by
  induction text generalizing inName front with
  | nil => contradiction
  | cons c rest ih =>
      rw [openCall?] at h
      split at h
      · rename_i cut found
        split at found
        · contradiction
        · obtain ⟨name, gap, -, rfl, -⟩ := opening?_eq_some_iff.mp (found.trans h)
          exact ⟨name ++ gap, rfl⟩
      · obtain ⟨⟨inner, _⟩, found, same⟩ := Option.map_eq_some_iff.mp h
        simp only [Prod.mk.injEq] at same
        obtain ⟨rfl, rfl⟩ := same
        obtain ⟨start, rfl⟩ := ih found
        exact ⟨c :: start, rfl⟩

/-- Where the call opens does not depend on what stands behind its parenthesis. -/
theorem openCall?_append {inName : Bool} (h : openCall? inName text = some (front, arguments))
    (other : List Char) : openCall? inName (front ++ other) = some (front, other) := by
  induction text generalizing inName front with
  | nil => contradiction
  | cons c rest ih =>
      rw [openCall?] at h
      split at h
      · rename_i cut found
        split at found
        · contradiction
        · rename_i free
          have again := opening?_append (found.trans h) other
          obtain ⟨name, gap, -, rfl, called, -⟩ := opening?_eq_some_iff.mp again
          obtain ⟨d, name, rfl⟩ :=
            List.exists_cons_of_length_eq_add_one (length_of_map_eq_command called)
          simp only [List.cons_append] at again ⊢
          rw [openCall?, if_neg free, again]
      · rename_i closed
        obtain ⟨⟨inner, _⟩, found, same⟩ := Option.map_eq_some_iff.mp h
        simp only [Prod.mk.injEq] at same
        obtain ⟨rfl, rfl⟩ := same
        have still : (if inName then none else opening? (c :: (inner ++ other))) = none := by
          split at closed
          · rename_i inside
            exact if_pos inside
          · rename_i outside
            rw [if_neg outside]
            obtain ⟨start, rfl⟩ := exists_concat_of_openCall? found
            rw [← append_of_openCall? found, List.append_assoc, List.singleton_append] at closed
            rw [List.append_assoc, List.singleton_append]
            exact opening?_eq_none_append (c :: start) other _ closed
        rw [List.cons_append, openCall?, still, ih found]
        rfl

variable {word : List Char} {span : Span}

theorem isOpen_of_mem_replaced (h : version? (arguments.takeWhile isOpen) = some span)
    (isVersion : IsVersion word) : ∀ c ∈ (span.replace word).text, isOpen c = true := by
  have whole := text_of_version? h
  intro c mem
  have inside (mem : c ∈ span.text) : isOpen c = true :=
    List.all_eq_true.mp List.all_takeWhile c (whole ▸ mem)
  simp only [Span.text, Span.replace, List.mem_append] at mem inside
  obtain (mem | mem) | mem := mem
  · exact inside (.inl (.inl mem))
  · exact isOpen_of_isVersionChar (isVersion.chars c mem)
  · exact inside (.inr mem)

theorem find?_eq_some_iff :
    find? text = some span ↔
      ∃ front rest inner, openCall? false text = some (front, rest) ∧
        rest.dropWhile isOpen ≠ [] ∧ version? (rest.takeWhile isOpen) = some inner ∧
          span = inner.moved front (rest.dropWhile isOpen) := by
  simp only [find?, Option.bind_eq_bind, Option.bind_eq_some_iff]
  constructor
  · rintro ⟨⟨front, rest⟩, opened, h⟩
    split at h
    · contradiction
    · rename_i closed
      obtain ⟨inner, found, rfl⟩ := Option.map_eq_some_iff.mp h
      exact ⟨front, rest, inner, opened, by simpa using closed, found, rfl⟩
  · rintro ⟨front, rest, inner, opened, closed, found, rfl⟩
    refine ⟨(front, rest), opened, ?_⟩
    rw [if_neg (by simpa using closed), found]
    rfl

/-- What replaces a version is found in its place. -/
theorem find?_text_replace (isVersion : IsVersion word) (h : find? text = some span) :
    find? (span.replace word).text = some (span.replace word) := by
  obtain ⟨front, rest, inner, opened, closed, found, rfl⟩ := find?_eq_some_iff.mp h
  have free := isOpen_of_mem_replaced found isVersion
  have stays : (rest.dropWhile isOpen).dropWhile isOpen = rest.dropWhile isOpen ∧
      (rest.dropWhile isOpen).takeWhile isOpen = [] := by
    have stops := List.head?_dropWhile_not isOpen rest
    cases shape : rest.dropWhile isOpen with
    | nil => exact ⟨rfl, rfl⟩
    | cons c back =>
        rw [shape] at stops
        simp_all
  refine find?_eq_some_iff.mpr ⟨front, (inner.replace word).text ++ rest.dropWhile isOpen,
    inner.replace word, ?_, ?_, ?_, ?_⟩
  · rw [Span.replace_moved, Span.text_moved, List.append_assoc]
    exact openCall?_append opened _
  · rw [List.dropWhile_append_of_pos free, stays.1]
    exact closed
  · rw [List.takeWhile_append_of_pos free, stays.2, List.append_nil]
    exact version?_text_replace isVersion found
  · rw [List.dropWhile_append_of_pos free, stays.1, Span.replace_moved]

end Call

end Dimensional.Release.ProjectCall
