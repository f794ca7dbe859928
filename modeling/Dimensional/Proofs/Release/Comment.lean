import Dimensional.Proofs.Release.ProjectVersion
import Mathlib.Order.Nat

/-!
Comments in front of a CMake file.  The search for the version knows nothing of them: a comment is
overlooked, whatever text follows, exactly if no `project` call opens in it.
-/

namespace Dimensional.Release.ProjectCall

open Text

variable {inName : Bool} {comment line front rest text : List Char}

/-! Comments without a call. -/

section Uncalled

/-- A number sign that no bracket follows, and the rest of the line. -/
def IsComment (comment : List Char) : Prop :=
  ∃ body, comment = '#' :: body ++ ['\n'] ∧ '\n' ∉ body ∧ body.head? ≠ some '['

/-- A call opens somewhere in the text. -/
def HoldsCall (text : List Char) : Prop :=
  ∃ (call : Call) (arguments : List Char), call.Opens false text arguments

/-- Where calls open, one does it first. -/
theorem holdsCall_iff : HoldsCall text ↔ openCall? false text ≠ none := by
  rw [Option.ne_none_iff_exists']
  constructor
  · intro ⟨call, arguments, opens⟩
    classical
    have some : ∃ n, ∃ (call : Call) (arguments : List Char),
        call.Opens false text arguments ∧ call.front.length = n := ⟨_, call, arguments, opens, rfl⟩
    obtain ⟨first, behind, opens, least⟩ := Nat.find_spec some
    refine ⟨(first.opening, behind), openCall?_eq_some_iff.mpr ⟨first, ⟨opens, ?_⟩, rfl⟩⟩
    exact fun other rest h => least ▸ Nat.find_min' some ⟨other, rest, h, rfl⟩
  · rintro ⟨⟨cut, arguments⟩, opened⟩
    obtain ⟨call, first, -⟩ := openCall?_eq_some_iff.mp opened
    exact ⟨call, arguments, first.opens⟩

theorem newline_notMem_opening {name gap : List Char} (named : name.map Char.toLower = command)
    (gaps : ∀ c ∈ gap, isGap c = true) : '\n' ∉ name ++ gap ++ ['('] := by
  rw [List.mem_append, List.mem_append, not_or, not_or]
  refine ⟨⟨fun mem => ?_, fun mem => ?_⟩, by decide⟩
  · have := List.mem_map_of_mem (f := Char.toLower) mem
    rw [named] at this
    revert this
    decide
  · have := gaps _ mem
    contradiction

/-- Whether a call opens at the start of a line is decided on the line. -/
theorem opening?_line (uncalled : opening? (line ++ ['\n']) = none) (text : List Char) :
    opening? (line ++ '\n' :: text) = none := by
  rw [Option.eq_none_iff_forall_ne_some] at uncalled ⊢
  rintro ⟨front, arguments⟩ found
  obtain ⟨name, gap, -, rfl, named, gaps⟩ := opening?_eq_some_iff.mp found
  obtain ⟨more, rfl⟩ : ∃ more, line = name ++ gap ++ ['('] ++ more := by
    obtain ⟨more, inside, behind⟩ | ⟨more, inside, -⟩ :=
      List.append_eq_append_iff.mp (append_of_opening? found).symm
    · cases more with
      | nil => exact ⟨[], by rw [inside, List.append_nil, List.append_nil]⟩
      | cons c more =>
          obtain ⟨rfl, -⟩ := List.cons.inj behind
          exact absurd (inside ▸ List.mem_append_right line List.mem_cons_self)
            (newline_notMem_opening named gaps)
    · exact ⟨more, inside⟩
  have again := opening?_append found (more ++ ['\n'])
  rw [← List.append_assoc] at again
  exact uncalled _ again

theorem openCall?_cons_eq_none_iff {c : Char} :
    openCall? inName (c :: rest) = none ↔
      (if inName then none else opening? (c :: rest)) = none ∧
        openCall? (isNameChar c) rest = none := by
  rw [openCall?]
  split <;> simp_all

theorem openCall?_cons_of_none {c : Char}
    (closed : (if inName then none else opening? (c :: rest)) = none) :
    openCall? inName (c :: rest) =
      (openCall? (isNameChar c) rest).map fun cut => (c :: cut.1, cut.2) := by
  rw [openCall?, closed]

/-- Behind a line in which no call opens, the search starts anew. -/
theorem openCall?_line (uncalled : openCall? inName (line ++ ['\n']) = none) (text : List Char) :
    openCall? inName (line ++ '\n' :: text) =
      (openCall? false text).map fun cut => (line ++ '\n' :: cut.1, cut.2) := by
  induction line generalizing inName with
  | nil =>
      have closed : (if inName then none else opening? ('\n' :: text)) = none := by
        cases inName with
        | true => rfl
        | false => exact @opening?_line [] (openCall?_cons_eq_none_iff.mp uncalled).1 text
      exact openCall?_cons_of_none closed
  | cons c line ih =>
      obtain ⟨closed, others⟩ := openCall?_cons_eq_none_iff.mp uncalled
      have still : (if inName then none else opening? (c :: (line ++ '\n' :: text))) = none := by
        cases inName with
        | true => rfl
        | false => exact @opening?_line (c :: line) closed text
      rw [List.cons_append, openCall?_cons_of_none still, ih others, Option.map_map]
      rfl

theorem find?_line (uncalled : ¬HoldsCall (line ++ ['\n'])) (text : List Char) :
    find? (line ++ '\n' :: text) = (find? text).map (·.moved (line ++ ['\n']) []) := by
  rw [holdsCall_iff, not_not] at uncalled
  rw [find?, find?, openCall?_line uncalled]
  cases openCall? false text with
  | none => rfl
  | some cut =>
      obtain ⟨front, rest⟩ := cut
      simp only [Option.map_some, Option.bind_eq_bind, Option.bind_some]
      split
      · rfl
      · rw [Option.map_map]
        refine congrArg (Option.map · _) (funext fun span => ?_)
        simp [Span.moved]

end Uncalled

/-! Comments in which a call opens. -/

section Called

variable {more behind : List Char}

theorem find?_of_openCall? (opened : openCall? false text = some (front, rest)) :
    find? text = if (rest.dropWhile isOpen).isEmpty then none
      else (version? (rest.takeWhile isOpen)).map (·.moved front (rest.dropWhile isOpen)) := by
  rw [find?, opened]
  rfl

theorem openCall?_append_of_some (opened : openCall? false comment = some (front, rest))
    (text : List Char) : openCall? false (comment ++ text) = some (front, rest ++ text) := by
  rw [← append_of_openCall? opened, List.append_assoc]
  exact openCall?_append opened _

/-- Up to the first closing parenthesis, the arguments are what is looked at. -/
theorem find?_of_closed {arguments behind : List Char}
    (opened : openCall? false text = some (front, arguments ++ ')' :: behind))
    (free : ')' ∉ arguments) :
    find? text = (version? arguments).map (·.moved front (')' :: behind)) := by
  obtain ⟨inside, back⟩ := cut_arguments free behind
  rw [find?_of_openCall? opened, inside, back]
  rfl

/-- If the call is closed in the comment too, what follows the comment is not looked at. -/
theorem find?_append_of_mem (opened : openCall? false comment = some (front, rest))
    (closed : ')' ∈ rest) (text : List Char) :
    find? (comment ++ text) = (find? comment).map (·.moved [] text) := by
  obtain ⟨arguments, behind, rfl, free⟩ := List.eq_append_cons_of_mem closed
  have again := openCall?_append_of_some opened text
  rw [List.append_assoc, List.cons_append] at again
  rw [find?_of_closed again free, find?_of_closed opened free, Option.map_map]
  refine congrArg (Option.map · _) (funext fun span => ?_)
  simp [Span.moved]

/-- If it is not, the arguments go on behind the comment. -/
theorem find?_append_of_notMem (opened : openCall? false comment = some (front, rest))
    (notClosed : ')' ∉ rest) {more : List Char} (free : ')' ∉ more) (behind : List Char) :
    find? (comment ++ (more ++ ')' :: behind)) =
      (version? (rest ++ more)).map (·.moved front (')' :: behind)) := by
  have again := openCall?_append_of_some opened (more ++ ')' :: behind)
  rw [← List.append_assoc rest] at again
  exact find?_of_closed again (by simp [notClosed, free])

/-! Arguments that are cut off behind a blank. -/

variable {arguments : List Char}

/-- Nothing, or something with a blank at its end. -/
def EndsBlank (text : List Char) : Prop :=
  ∀ c, text.getLast? = some c → isBlank c = true

/-- A first word that a blank follows stays the first word. -/
theorem firstWord_append (ends : EndsBlank arguments)
    (ne : (Span.firstWord arguments).word ≠ []) :
    EndsBlank (Span.firstWord arguments).behind ∧
      ∀ more, Span.firstWord (arguments ++ more) =
        { Span.firstWord arguments with behind := (Span.firstWord arguments).behind ++ more } := by
  have isFirst := Span.isFirst_firstWord ne
  have whole := Span.text_firstWord arguments
  generalize Span.firstWord arguments = first at ne isFirst whole ⊢
  subst whole
  have goesOn : first.behind ≠ [] := by
    intro none
    obtain ⟨c, last⟩ := Option.ne_none_iff_exists'.mp (mt List.getLast?_eq_none_iff.mp ne)
    have blank : isBlank c = true := by
      refine ends c ?_
      rw [Span.text, none, List.append_nil, List.getLast?_append_of_ne_nil _ ne, last]
    have solid := Span.isBlank_of_isWordChar (isFirst.word c (List.mem_of_getLast? last))
    rw [blank] at solid
    contradiction
  constructor
  · intro c last
    refine ends c ?_
    rw [Span.text, List.getLast?_append_of_ne_nil _ goesOn, last]
  · intro more
    let longer : Span := { first with behind := first.behind ++ more }
    have stops : longer.behind.head?.all isBlank = true := by
      obtain ⟨c, behind, shape⟩ := List.exists_cons_of_ne_nil goesOn
      simpa [longer, shape] using isFirst.behind
    have stillFirst : longer.IsFirst := { isFirst with behind := stops }
    have text : first.text ++ more = longer.text := by simp [longer, Span.text]
    rw [text, Span.firstWord_text stillFirst]

theorem isBlank_of_firstWord (none : (Span.firstWord arguments).word = []) :
    ∀ c ∈ arguments, isBlank c = true := by
  obtain ⟨blanks, whole, blank⟩ := exists_trimStart arguments
  have rest : trimStart arguments = [] := by
    cases left : trimStart arguments with
    | nil => rfl
    | cons c rest =>
        have stops := List.head?_dropWhile_not isBlank arguments
        rw [trimStart] at left
        rw [left] at stops
        have start : Span.isWordChar c = true := by simpa [Span.isWordChar] using stops
        rw [Span.firstWord, trimStart, left, List.takeWhile_cons_of_pos start] at none
        exact absurd none (List.cons_ne_nil c _)
  rw [rest, List.append_nil] at whole
  exact whole ▸ blank

theorem firstWord_append_of_blank (blank : ∀ c ∈ arguments, isBlank c = true) {word : List Char}
    (ne : word ≠ []) (solid : ∀ c ∈ word, Span.isWordChar c = true) (rest : List Char)
    (stops : rest.head?.all isBlank = true) :
    Span.firstWord (arguments ++ (word ++ rest)) = ⟨arguments, word, rest⟩ := by
  have isFirst : Span.IsFirst ⟨arguments, word, rest⟩ := ⟨blank, ne, solid, stops⟩
  rw [← List.append_assoc]
  exact Span.firstWord_text isFirst

theorem number?_eq_none_iff :
    number? arguments = none ↔ ¬IsVersion (Span.firstWord arguments).word := by
  rw [Option.eq_none_iff_forall_ne_some]
  simp only [Ne, number?_eq_some_iff]
  constructor
  · exact fun h isVersion => h _ ⟨rfl, isVersion⟩
  · rintro h _ ⟨rfl, isVersion⟩
    exact h isVersion

theorem isVersion_one : IsVersion ['1'] :=
  ⟨by decide, List.all_eq_true.mp (by decide)⟩

theorem isWordChar_keyword : ∀ c ∈ keyword, Span.isWordChar c = true :=
  List.all_eq_true.mp (by decide)

/-- Behind the keyword a version stands, or another word, or none yet. -/
theorem number?_completes_or_spoils (ends : EndsBlank arguments) :
    (∃ more ∈ [[], ['1']], number? (arguments ++ more) ≠ none) ∨
      ∀ more, number? (arguments ++ more) = none := by
  simp only [Ne, number?_eq_none_iff, not_not]
  by_cases ne : (Span.firstWord arguments).word = []
  · refine .inl ⟨['1'], by simp, ?_⟩
    have first := firstWord_append_of_blank (isBlank_of_firstWord ne) isVersion_one.ne_nil
      (fun c mem => isWordChar_of_isVersionChar (isVersion_one.chars c mem)) [] rfl
    rw [List.append_nil] at first
    rw [first]
    exact isVersion_one
  · obtain ⟨-, longer⟩ := firstWord_append ends ne
    simp only [longer]
    by_cases isVersion : IsVersion (Span.firstWord arguments).word
    · exact .inl ⟨[], by simp, isVersion⟩
    · exact .inr fun _ => isVersion

theorem version?_append_eq_none_iff (ends : EndsBlank arguments)
    (ne : (Span.firstWord arguments).word ≠ []) (more : List Char) :
    version? (arguments ++ more) = none ↔
      (if (Span.firstWord arguments).word = keyword then
        number? ((Span.firstWord arguments).behind ++ more)
      else version? ((Span.firstWord arguments).behind ++ more)) = none := by
  have longer := (firstWord_append ends ne).2 more
  rw [version?_of_ne_nil (longer ▸ ne), longer, Option.map_eq_none_iff]

/-- Either one of three texts completes the arguments to some with a version, or nothing does. -/
theorem version?_completes_or_spoils (ends : EndsBlank arguments) :
    (∃ more ∈ [[], ['1'], keyword ++ [' ', '1']], version? (arguments ++ more) ≠ none) ∨
      ∀ more, version? (arguments ++ more) = none := by
  induction size : arguments.length using Nat.strongRecOn generalizing arguments with
  | ind _ ih =>
      subst size
      by_cases ne : (Span.firstWord arguments).word = []
      · -- No word stands there yet.
        refine .inl ⟨keyword ++ [' ', '1'], by simp, ?_⟩
        have nonempty : keyword ≠ [] := by decide
        have version : number? [' ', '1'] ≠ none := by decide
        have first := firstWord_append_of_blank (isBlank_of_firstWord ne) nonempty
          isWordChar_keyword [' ', '1'] rfl
        rw [version?_of_ne_nil (by rwa [first]), first, if_pos rfl]
        exact mt Option.map_eq_none_iff.mp version
      · have behind := (firstWord_append ends ne).1
        simp only [Ne, version?_append_eq_none_iff ends ne]
        by_cases keyed : (Span.firstWord arguments).word = keyword
        · simp only [if_pos keyed]
          refine (number?_completes_or_spoils behind).imp_left ?_
          rintro ⟨more, mem, found⟩
          exact ⟨more, List.mem_append_left [_] mem, found⟩
        · simp only [if_neg keyed]
          exact ih _ (Span.length_behind_firstWord ne) behind rfl

/-- What stands behind the call in a comment ends with the line. -/
theorem IsComment.endsBlank (isComment : IsComment comment)
    (opened : openCall? false comment = some (front, rest)) : EndsBlank rest := by
  obtain ⟨body, shape, -⟩ := isComment
  obtain ⟨start, rfl⟩ := exists_concat_of_openCall? opened
  have whole : start ++ ['('] ++ rest = '#' :: body ++ ['\n'] :=
    (append_of_openCall? opened).trans shape
  intro c last
  have same := congrArg List.getLast? whole
  rw [List.getLast?_append, last, Option.some_or, List.getLast?_concat] at same
  obtain rfl := Option.some.inj same
  decide

end Called

end Dimensional.Release.ProjectCall

namespace Dimensional.Release.Package

open ProjectCall (HoldsCall IsComment Call find?)

section Comment

variable {comment text whole front back : String}

theorem readVersion?_cpp (text : String) :
    cpp.readVersion? text = (find? text.toList).map fun span => String.ofList span.word := rfl

theorem readVersion?_cpp_eq_none_iff : cpp.readVersion? text = none ↔ find? text.toList = none := by
  rw [readVersion?_cpp, Option.map_eq_none_iff]

/-- Where the search finds in a text what it finds in a part of it, nothing else of the text is read
or changes. -/
theorem cpp_of_moved
    (h : find? whole.toList = (find? text.toList).map (·.moved front.toList back.toList)) :
    cpp.readVersion? whole = cpp.readVersion? text ∧
      ∀ version, cpp.writeVersion? whole version =
        (cpp.writeVersion? text version).map fun new => front ++ new ++ back := by
  constructor
  · rw [readVersion?_cpp, readVersion?_cpp, h, Option.map_map]
    rfl
  · intro version
    rw [writeVersion?_of_none rfl, writeVersion?_of_none rfl, h, Option.map_map, Option.map_map]
    refine congrArg (Option.map · _) (funext fun span => String.toList_injective ?_)
    simp [ProjectCall.Span.replace_moved]

/-- The comment makes no difference to what is read, and stays in front of what is written. -/
structure Overlooked (comment text : String) : Prop where
  read : cpp.readVersion? (comment ++ text) = cpp.readVersion? text
  written : ∀ version, cpp.writeVersion? (comment ++ text) version =
    (cpp.writeVersion? text version).map (comment ++ ·)

/-- What is read and written stands in the comment; the text behind it stays as it is. -/
structure Captures (comment text : String) : Prop where
  read : cpp.readVersion? (comment ++ text) = cpp.readVersion? comment
  written : ∀ version, cpp.writeVersion? (comment ++ text) version =
    (cpp.writeVersion? comment version).map (· ++ text)

theorem overlooked_of_not_holdsCall (isComment : IsComment comment.toList)
    (uncalled : ¬HoldsCall comment.toList) (text : String) : Overlooked comment text := by
  obtain ⟨body, shape, -⟩ := isComment
  rw [shape] at uncalled
  have same : (comment ++ text).toList = '#' :: body ++ '\n' :: text.toList := by simp [shape]
  have found : find? (comment ++ text).toList =
      (find? text.toList).map (·.moved comment.toList "".toList) := by
    rw [same, ProjectCall.find?_line uncalled, shape]
    rfl
  obtain ⟨read, written⟩ := cpp_of_moved found
  refine ⟨read, fun version => (written version).trans ?_⟩
  simp only [String.append_empty]

theorem captures_of_mem {call : Call} {arguments : List Char}
    (first : call.IsFirst false comment.toList arguments) (closed : ')' ∈ arguments)
    (text : String) : Captures comment text := by
  have opened := ProjectCall.openCall?_eq_some_iff.mpr ⟨call, first, rfl⟩
  have found : find? (comment ++ text).toList =
      (find? comment.toList).map (·.moved "".toList text.toList) := by
    rw [String.toList_append]
    exact ProjectCall.find?_append_of_mem opened closed text.toList
  obtain ⟨read, written⟩ := cpp_of_moved found
  refine ⟨read, fun version => (written version).trans ?_⟩
  simp only [String.empty_append]

/-- Something is read that the text does not declare, or nothing is read though it declares
something. -/
theorem exists_readVersion?_ne (isComment : IsComment comment.toList)
    (called : HoldsCall comment.toList) :
    ∃ text, cpp.readVersion? (comment ++ text) ≠ cpp.readVersion? text := by
  obtain ⟨⟨front, rest⟩, opened⟩ :=
    Option.ne_none_iff_exists'.mp (ProjectCall.holdsCall_iff.mp called)
  by_cases closed : ')' ∈ rest
  · obtain ⟨call, first, -⟩ := ProjectCall.openCall?_eq_some_iff.mp opened
    have captures := captures_of_mem first closed
    cases read : cpp.readVersion? comment with
    | none =>
        have declared : cpp.readVersion? "project(a VERSION 1)" ≠ none := by decide +kernel
        exact ⟨_, fun same => declared (same.symm.trans ((captures _).read.trans read))⟩
    | some version =>
        have undeclared : cpp.readVersion? "" = none := by decide +kernel
        refine ⟨"", fun same => ?_⟩
        rw [(captures "").read, read, undeclared] at same
        contradiction
  · have goesOn (more : List Char) (free : ')' ∉ more) :
        cpp.readVersion? (comment ++ String.ofList (more ++ [')'])) = none ↔
          ProjectCall.version? (rest ++ more) = none := by
      rw [readVersion?_cpp_eq_none_iff, String.toList_append, String.toList_ofList,
        ProjectCall.find?_append_of_notMem opened closed free, Option.map_eq_none_iff]
    obtain ⟨more, mem, completes⟩ | spoils :=
      ProjectCall.version?_completes_or_spoils (isComment.endsBlank opened)
    · have undeclared : ∀ more ∈ [[], ['1'], ProjectCall.keyword ++ [' ', '1']],
          ')' ∉ more ∧ cpp.readVersion? (String.ofList (more ++ [')'])) = none := by decide +kernel
      obtain ⟨free, nothing⟩ := undeclared more mem
      exact ⟨_, fun same => completes ((goesOn more free).mp (same.trans nothing))⟩
    · have declared : cpp.readVersion? (String.ofList ("project(a VERSION 1".toList ++ [')'])) ≠
          none := by decide +kernel
      have nothing := (goesOn "project(a VERSION 1".toList (by decide)).mpr (spoils _)
      exact ⟨_, fun same => declared (same.symm.trans nothing)⟩

/-- A comment is overlooked, whatever stands behind it, exactly if no call opens in it.  One in
which a call is opened and closed captures every text behind it. -/
theorem overlooked_iff (isComment : IsComment comment.toList) :
    ((∀ text, Overlooked comment text) ↔ ¬HoldsCall comment.toList) ∧
      ∀ (call : Call) (arguments : List Char), call.IsFirst false comment.toList arguments →
        ')' ∈ arguments → ∀ text, Captures comment text := by
  refine ⟨⟨fun overlooked called => ?_, overlooked_of_not_holdsCall isComment⟩,
    fun _ _ => captures_of_mem⟩
  obtain ⟨text, differs⟩ := exists_readVersion?_ne isComment called
  exact differs (overlooked text).read

theorem overlooked_iff_otherCommand :
    IsComment "# subproject(a VERSION 1)\n".toList ∧
      ¬HoldsCall "# subproject(a VERSION 1)\n".toList ∧
      Overlooked "# subproject(a VERSION 1)\n" "project(dv VERSION 0.1.0)\n" := by
  have isComment : IsComment "# subproject(a VERSION 1)\n".toList :=
    ⟨" subproject(a VERSION 1)".toList, rfl, by decide, by decide⟩
  have uncalled : ¬HoldsCall "# subproject(a VERSION 1)\n".toList := by
    rw [ProjectCall.holdsCall_iff, not_not]
    decide +kernel
  exact ⟨isComment, uncalled, (overlooked_iff isComment).1.mpr uncalled _⟩

/-- The version of a project that was given up is read, and it is the one that is written. -/
theorem not_overlooked_formerProject :
    IsComment "# project(old VERSION 9.9.9)\n".toList ∧
      cpp.readVersion? "project(dv VERSION 0.1.0)\n" = some "0.1.0" ∧
      cpp.readVersion? ("# project(old VERSION 9.9.9)\n" ++ "project(dv VERSION 0.1.0)\n") =
        some "9.9.9" ∧
      cpp.writeVersion? ("# project(old VERSION 9.9.9)\n" ++ "project(dv VERSION 0.1.0)\n")
        "0.2.0" = some "# project(old VERSION 0.2.0)\nproject(dv VERSION 0.1.0)\n" ∧
      ¬Overlooked "# project(old VERSION 9.9.9)\n" "project(dv VERSION 0.1.0)\n" := by
  have declared : cpp.readVersion? "project(dv VERSION 0.1.0)\n" = some "0.1.0" := by
    decide +kernel
  have commented :
      cpp.readVersion? ("# project(old VERSION 9.9.9)\n" ++ "project(dv VERSION 0.1.0)\n") =
        some "9.9.9" := by decide +kernel
  refine ⟨⟨" project(old VERSION 9.9.9)".toList, rfl, by decide, by decide⟩, declared, commented,
    by decide +kernel, fun overlooked => ?_⟩
  have same := overlooked.read
  rw [commented, declared] at same
  exact absurd same (by decide)

end Comment

end Dimensional.Release.Package
