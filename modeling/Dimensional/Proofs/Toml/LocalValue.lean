import Dimensional.Proofs.Toml.Local

/-!
The readers of TOML values and statements are local, and so is a document that is read line by line.
-/

namespace Dimensional.Toml

namespace Scalar

theorem suffix_takeWord (text : List Char) : (takeWord text).2 <:+ text :=
  List.dropWhile_suffix isWordChar

theorem takeWord_newline (front behind : List Char) :
    takeWord (front ++ '\n' :: behind) =
      ((takeWord front).1, (takeWord front).2 ++ '\n' :: behind) := by
  have stops : isWordChar '\n' = false := by decide
  rw [takeWord, takeWhile_newline stops, dropWhile_newline stops]
  rfl

theorem read?_blank {text word more : List Char} (shape : takeWord text = (word, ' ' :: more)) :
    Scalar.read? text =
      if (isDate word && isTimeOfDay (takeWord more).1) = true then
        some (.dateTime (String.ofList (word ++ ' ' :: (takeWord more).1)), (takeWord more).2)
      else (ofWord? word).map (·, ' ' :: more) := by
  rw [Scalar.read?, shape]
  rfl

theorem read?_word {text word rest : List Char} (shape : takeWord text = (word, rest))
    (other : rest.head? ≠ some ' ') : Scalar.read? text = (ofWord? word).map (·, rest) := by
  rw [Scalar.read?, shape]
  dsimp only
  split
  · exact absurd rfl other
  · rfl

theorem suffix_of_read? {text rest : List Char} {item : Item}
    (h : Scalar.read? text = some (item, rest)) : rest <:+ text := by
  have suffix := suffix_takeWord text
  rcases shape : takeWord text with ⟨word, left⟩
  rw [shape] at suffix
  by_cases blank : left.head? = some ' '
  · obtain ⟨more, rfl⟩ := List.head?_eq_some_iff.mp blank
    rw [read?_blank shape] at h
    split at h
    · obtain ⟨-, rfl⟩ := Prod.mk.inj (Option.some.inj h)
      exact (suffix_takeWord more).trans ((List.suffix_cons ' ' more).trans suffix)
    · obtain ⟨_, -, same⟩ := Option.map_eq_some_iff.mp h
      exact (Prod.mk.inj same).2 ▸ suffix
  · rw [read?_word shape blank] at h
    obtain ⟨_, -, same⟩ := Option.map_eq_some_iff.mp h
    exact (Prod.mk.inj same).2 ▸ suffix

/-- No word goes on in the next line. -/
theorem read?_newline (front behind : List Char) :
    Scalar.read? (front ++ '\n' :: behind) =
      (Scalar.read? front).map fun (item, rest) => (item, rest ++ '\n' :: behind) := by
  rcases shape : takeWord front with ⟨word, left⟩
  have longer : takeWord (front ++ '\n' :: behind) = (word, left ++ '\n' :: behind) := by
    rw [takeWord_newline, shape]
  by_cases blank : left.head? = some ' '
  · obtain ⟨more, rfl⟩ := List.head?_eq_some_iff.mp blank
    rw [List.cons_append] at longer
    rw [read?_blank shape, read?_blank longer, takeWord_newline]
    split
    · rfl
    · rw [Option.map_map]
      rfl
  · have other : (left ++ '\n' :: behind).head? ≠ some ' ' := by
      cases left with
      | nil => exact fun same => absurd (Option.some.inj same) (by decide)
      | cons c left => exact blank
    rw [read?_word shape blank, read?_word longer other, Option.map_map]
    rfl

theorem local_read? : Local Scalar.read? :=
  local_of_newline suffix_of_read? read?_newline

end Scalar

section Space

variable {c : Char} {text : List Char}

theorem skipSpace_comment (text : List Char) :
    skipSpace ('#' :: text) = skipSpace (skipComment text) := by
  rw [skipSpace]

theorem skipSpace_gap (gap : isGap c = true) (text : List Char) :
    skipSpace (c :: text) = skipSpace text := by
  rw [skipSpace, if_pos gap]
  · rintro rfl
    contradiction
  · rintro _ rfl -
    contradiction
  · rintro rfl
    contradiction

theorem skipSpace_stop (gap : isGap c = false) (line : c ≠ '\n') (comment : c ≠ '#')
    (return_ : c = '\r' → text.head? ≠ some '\n') : skipSpace (c :: text) = c :: text := by
  rw [skipSpace, if_neg (by simp [gap])]
  · exact line
  · rintro _ isReturn rfl
    exact return_ isReturn rfl
  · exact comment

end Space

theorem skips_skipSpace : Skips skipSpace := by
  intro text rest old h
  fun_induction skipSpace text with
  | case1 text ih =>
      obtain ⟨front, rfl, swap⟩ := ih h
      exact ⟨'\n' :: front, rfl, fun new => by rw [List.cons_append, skipSpace, swap]⟩
  | case2 text ih =>
      obtain ⟨front, rfl, swap⟩ := ih h
      exact ⟨'\r' :: '\n' :: front, rfl, fun new => by
        simp only [List.cons_append, skipSpace, swap]⟩
  | case3 text _ ih =>
      obtain ⟨middle, shape, swap⟩ := ih h
      obtain ⟨front, rfl, swapComment⟩ := skips_skipComment shape
      refine ⟨'#' :: front, rfl, fun new => ?_⟩
      rw [List.cons_append, skipSpace_comment, swapComment, swap]
  | case4 c text notLine notReturn notComment gap ih =>
      obtain ⟨front, rfl, swap⟩ := ih h
      exact ⟨c :: front, rfl, fun new => (skipSpace_gap gap _).trans (swap new)⟩
  | case5 c text notLine notReturn notComment gap =>
      refine ⟨rest, h, fun new => ?_⟩
      obtain ⟨rfl, rfl, -⟩ | ⟨front, rfl, rfl⟩ := cons_eq_append_newline h
      · contradiction
      · refine skipSpace_stop (by simpa using gap) notLine notComment fun isReturn line => ?_
        rw [List.append_eq, head?_newline front new old] at line
        obtain ⟨tail, same⟩ := List.head?_eq_some_iff.mp line
        exact notReturn tail isReturn same
  | case6 => simp at h

namespace Value

theorem local_simple? : Local simple? := by
  refine .ofHead (fun head => head = some '"' ∨ head = some '\'')
    (Quoted.local_read?.map fun body => .string (String.ofList body)) Scalar.local_read? ?_ ?_
  · rintro text (head | head)
    all_goals
      obtain ⟨text, rfl⟩ := List.head?_eq_some_iff.mp head
      rfl
  · intro text head
    unfold simple?
    split
    · exact absurd (.inl rfl) head
    · exact absurd (.inr rfl) head
    · rfl

section Array

variable {item? : Reader Item} {text rest more : List Char} {item : Item}

theorem elements?_close (close : skipSpace text = ']' :: rest) :
    elements? item? text = some ([], rest) := by
  rw [elements?]
  simp only [close]

theorem elements?_last (start : (skipSpace text).head? ≠ some ']')
    (first : item? (skipSpace text) = some (item, rest)) (close : skipSpace rest = ']' :: more) :
    elements? item? text = some ([item], more) := by
  rw [elements?]
  split
  · rename_i empty
    exact absurd (congrArg List.head? empty) start
  · rw [first]
    simp only [close]

theorem elements?_comma (start : (skipSpace text).head? ≠ some ']')
    (first : item? (skipSpace text) = some (item, rest)) (comma : skipSpace rest = ',' :: more)
    (shorter : more.length < text.length) :
    elements? item? text =
      (elements? item? more).map fun (items, rest) => (item :: items, rest) := by
  rw [elements?]
  split
  · rename_i empty
    exact absurd (congrArg List.head? empty) start
  · rw [first]
    simp only [comma, if_pos shorter]

theorem exists_first {middle old : List Char} (items : Local item?)
    (start : ∀ tail, skipSpace text ≠ ']' :: tail)
    (first : item? (skipSpace text) = some (item, middle ++ '\n' :: old)) :
    ∃ front, text = front ++ '\n' :: old ∧ ∀ new,
      (skipSpace (front ++ '\n' :: new)).head? ≠ some ']' ∧
        item? (skipSpace (front ++ '\n' :: new)) = some (item, middle ++ '\n' :: new) := by
  obtain ⟨begin, shape, swapItem⟩ := items first
  obtain ⟨front, rfl, swapSpace⟩ := skips_skipSpace shape
  refine ⟨front, rfl, fun new => ⟨?_, (congrArg item? (swapSpace new)).trans (swapItem new)⟩⟩
  rw [swapSpace, head?_newline begin new old, ← shape]
  intro empty
  obtain ⟨tail, empty⟩ := List.head?_eq_some_iff.mp empty
  exact start tail empty

theorem local_elements? (items : Local item?) : Local (elements? item?) := by
  intro text a left old h
  fun_induction elements? item? text generalizing a with
  | case1 text rest close =>
      obtain ⟨rfl, rfl⟩ := Prod.mk.inj (Option.some.inj h)
      have shape : skipSpace text = (']' :: left) ++ '\n' :: old := close
      obtain ⟨front, rfl, swap⟩ := skips_skipSpace shape
      exact ⟨front, rfl, fun new => elements?_close (swap new)⟩
  | case2 => contradiction
  | case3 text item rest behind close start first =>
      obtain ⟨rfl, rfl⟩ := Prod.mk.inj (Option.some.inj h)
      have shape : skipSpace rest = (']' :: left) ++ '\n' :: old := close
      obtain ⟨middle, rfl, swapClose⟩ := skips_skipSpace shape
      obtain ⟨front, rfl, swapFirst⟩ := exists_first items start first
      exact ⟨front, rfl, fun new =>
        elements?_last (swapFirst new).1 (swapFirst new).2 (swapClose new)⟩
  | case4 text item rest more comma shorter start first ih =>
      obtain ⟨⟨others, _⟩, found, same⟩ := Option.map_eq_some_iff.mp h
      obtain ⟨rfl, rfl⟩ := Prod.mk.inj same
      obtain ⟨inner, rfl, swapMore⟩ := ih found
      have shape : skipSpace rest = (',' :: inner) ++ '\n' :: old := comma
      obtain ⟨middle, rfl, swapComma⟩ := skips_skipSpace shape
      obtain ⟨front, rfl, swapFirst⟩ := exists_first items start first
      rw [length_newline_lt_iff] at shorter
      refine ⟨front, rfl, fun new => ?_⟩
      have comma : skipSpace (middle ++ '\n' :: new) = ',' :: (inner ++ '\n' :: new) :=
        swapComma new
      rw [elements?_comma (swapFirst new).1 (swapFirst new).2 comma
        ((length_newline_lt_iff new).mpr shorter), swapMore, Option.map_some]
  | case5 => contradiction
  | case6 => contradiction

end Array

/-! Tables in braces. -/

section Braces

variable {item? : Reader Item}

theorem member?_eq (text : List Char) :
    member? item? text = (Key.read? text).bind fun (key, rest) =>
      expect? '=' (fun rest => (item? (skipGap rest)).map fun (item, rest) =>
        ((key, item), rest)) rest := by
  rw [member?]
  rcases Key.read? text with _ | ⟨key, rest⟩
  · rfl
  · simp only [Option.bind_eq_bind, Option.bind_some]
    by_cases assigned : rest.head? = some '='
    · obtain ⟨rest, rfl⟩ := List.head?_eq_some_iff.mp assigned
      rw [expect?_cons]
      change (item? (skipGap rest)).bind _ = _
      cases item? (skipGap rest) <;> rfl
    · rw [expect?_of_ne assigned]
      split
      · exact absurd rfl assigned
      · rfl

theorem local_member? (items : Local item?) : Local (member? item?) := by
  have assigned (key : List String) : Local (expect? '=' fun rest =>
      (item? (skipGap rest)).map fun (item, rest) => ((key, item), rest)) :=
    local_expect? '=' ((items.after skips_skipGap).map (key, ·))
  intro text a rest old h
  simp only [member?_eq] at h ⊢
  exact Key.local_read?.bind assigned h

variable {text rest more : List Char} {member : List String × Item}

theorem members?_last (first : member? item? text = some (member, rest))
    (close : skipGap rest = '\x7d' :: more) : members? item? text = some ([member], more) := by
  rw [members?, first]
  simp only [close]

theorem members?_comma (first : member? item? text = some (member, rest))
    (comma : skipGap rest = ',' :: more) (shorter : more.length < text.length) :
    members? item? text =
      (members? item? more).map fun (members, rest) => (member :: members, rest) := by
  rw [members?, first]
  simp only [comma, if_pos shorter]

theorem local_members? (items : Local item?) : Local (members? item?) := by
  intro text a left old h
  fun_induction members? item? text generalizing a with
  | case1 => contradiction
  | case2 text member rest first behind close =>
      obtain ⟨rfl, rfl⟩ := Prod.mk.inj (Option.some.inj h)
      have shape : skipGap rest = ('\x7d' :: left) ++ '\n' :: old := close
      obtain ⟨middle, rfl, swapClose⟩ := skips_skipGap shape
      obtain ⟨front, rfl, swapFirst⟩ := local_member? items first
      exact ⟨front, rfl, fun new => members?_last (swapFirst new) (swapClose new)⟩
  | case3 text member rest first more comma shorter ih =>
      obtain ⟨⟨others, _⟩, found, same⟩ := Option.map_eq_some_iff.mp h
      obtain ⟨rfl, rfl⟩ := Prod.mk.inj same
      obtain ⟨inner, rfl, swapMore⟩ := ih found
      have shape : skipGap rest = (',' :: inner) ++ '\n' :: old := comma
      obtain ⟨middle, rfl, swapComma⟩ := skips_skipGap shape
      obtain ⟨front, rfl, swapFirst⟩ := local_member? items first
      rw [length_newline_lt_iff] at shorter
      refine ⟨front, rfl, fun new => ?_⟩
      have comma : skipGap (middle ++ '\n' :: new) = ',' :: (inner ++ '\n' :: new) := swapComma new
      rw [members?_comma (swapFirst new) comma ((length_newline_lt_iff new).mpr shorter), swapMore,
        Option.map_some]
  | case4 => contradiction
  | case5 => contradiction

theorem braced?_eq (text : List Char) :
    braced? item? text =
      if (skipGap text).head? = some '\x7d' then
        some (.table .inline [], (skipGap text).tail)
      else
        (members? item? (skipGap text)).bind fun (members, rest) =>
          (Table.ofMembers members).bind fun table => some (.table .inline table, rest) := by
  rw [braced?]
  split
  · rename_i close
    rw [close]
    rfl
  · rename_i other
    rw [if_neg]
    · rfl
    · intro head
      obtain ⟨rest, close⟩ := List.head?_eq_some_iff.mp head
      exact other rest close

theorem local_braced? (items : Local item?) : Local (braced? item?) := by
  have made (members : List (List String × Item)) : Local fun rest =>
      (Table.ofMembers members).bind fun table => some (Item.table .inline table, rest) := by
    cases Table.ofMembers members with
    | none => exact local_none
    | some table => exact local_pure (Item.table .inline table)
  have opened : Local fun text =>
      if text.head? = some '\x7d' then some (Item.table .inline [], text.tail)
      else (members? item? text).bind fun (members, rest) =>
        (Table.ofMembers members).bind fun table => some (Item.table .inline table, rest) :=
    .ofHead (· = some '\x7d') (local_pure (Item.table .inline [])).behind
      ((local_members? items).bind made) (fun _ head => if_pos head) (fun _ head => if_neg head)
  rw [funext braced?_eq]
  exact opened.after skips_skipGap

end Braces

theorem read?_simple {text : List Char} (array : text.head? ≠ some '[')
    (table : text.head? ≠ some '\x7b') (depth : Nat) : Value.read? depth text = simple? text := by
  cases depth with
  | zero => rfl
  | succ depth =>
      rw [Value.read?]
      dsimp only
      split
      · exact absurd rfl array
      · exact absurd rfl table
      · rfl

theorem local_read? (depth : Nat) : Local (Value.read? depth) := by
  induction depth with
  | zero => exact local_simple?
  | succ depth ih =>
      have array : Local fun text =>
          (elements? (Value.read? depth) text).map fun (items, rest) => (Item.array items, rest) :=
        (local_elements? ih).map Item.array
      have other : Local fun text =>
          if text.head? = some '\x7b' then braced? (Value.read? depth) text.tail
          else simple? text :=
        .ofHead (· = some '\x7b') (local_braced? ih).behind local_simple?
          (fun _ head => if_pos head)
          (fun _ head => if_neg head)
      refine .ofHead (· = some '[') array.behind other ?_ ?_
      · intro text head
        obtain ⟨text, rfl⟩ := List.head?_eq_some_iff.mp head
        rfl
      · intro text array
        by_cases table : text.head? = some '\x7b'
        · rw [if_pos table]
          obtain ⟨text, rfl⟩ := List.head?_eq_some_iff.mp table
          rfl
        · rw [if_neg table, read?_simple array table]

end Value

namespace Statement

variable {text : List Char}

/-- What may stand in the place of a statement. -/
def IsNothing (head : Option Char) : Prop :=
  head = none ∨ head = some '#' ∨ head = some '\n' ∨ head = some '\r'

instance (head : Option Char) : Decidable (IsNothing head) :=
  inferInstanceAs (Decidable (_ ∨ _ ∨ _ ∨ _))

theorem read?_nothing (nothing : IsNothing text.head?) :
    Statement.read? text = some (none, text) := by
  rcases nothing with head | head | head | head
  · obtain rfl := List.head?_eq_none_iff.mp head
    rfl
  all_goals
    obtain ⟨text, rfl⟩ := List.head?_eq_some_iff.mp head
    rfl

theorem read?_element (text : List Char) :
    Statement.read? ('[' :: '[' :: text) = (Key.read? text).bind fun (path, rest) =>
      expect? ']' (expect? ']' fun rest => some (some (element path), rest)) rest := by
  rw [Statement.read?]
  rcases Key.read? text with _ | ⟨path, rest⟩
  · rfl
  rw [Option.bind_some]
  dsimp only
  by_cases first : rest.head? = some ']'
  · obtain ⟨rest, rfl⟩ := List.head?_eq_some_iff.mp first
    rw [expect?_cons]
    by_cases second : rest.head? = some ']'
    · obtain ⟨rest, rfl⟩ := List.head?_eq_some_iff.mp second
      rfl
    · rw [expect?_of_ne second]
      split
      case h_1 same =>
        obtain ⟨-, rfl⟩ := List.cons.inj (Prod.mk.inj (Option.some.inj same)).2
        exact absurd rfl second
      case h_2 => rfl
  · rw [expect?_of_ne first]
    split
    case h_1 same =>
      obtain ⟨-, rfl⟩ := Prod.mk.inj (Option.some.inj same)
      exact absurd rfl first
    case h_2 => rfl

theorem read?_header (other : text.head? ≠ some '[') :
    Statement.read? ('[' :: text) = (Key.read? text).bind fun (path, rest) =>
      expect? ']' (fun rest => some (some (header path), rest)) rest := by
  unfold Statement.read?
  split
  case h_1 same =>
    obtain ⟨-, rfl⟩ := List.cons.inj same
    exact absurd rfl other
  case h_2 same =>
    obtain ⟨-, rfl⟩ := List.cons.inj same
    rcases Key.read? text with _ | ⟨path, rest⟩
    · rfl
    rw [Option.bind_some]
    dsimp only
    by_cases close : rest.head? = some ']'
    · obtain ⟨rest, rfl⟩ := List.head?_eq_some_iff.mp close
      rfl
    · rw [expect?_of_ne close]
      split
      case h_1 same =>
        obtain ⟨-, rfl⟩ := Prod.mk.inj (Option.some.inj same)
        exact absurd rfl close
      case h_2 => rfl
  all_goals simp_all

theorem read?_entry (something : ¬IsNothing text.head?) (other : text.head? ≠ some '[') :
    Statement.read? text = (Value.member? (Value.read? Key.maxDepth) text).map
      fun ((key, item), rest) => (some (entry key item), rest) := by
  unfold Statement.read?
  split
  · exact absurd rfl other
  · exact absurd rfl other
  · exact absurd (.inr (.inl rfl)) something
  · exact absurd (.inr (.inr (.inl rfl))) something
  · exact absurd (.inr (.inr (.inr rfl))) something
  · exact absurd (.inl rfl) something
  · rfl

theorem local_read? : Local Statement.read? := by
  have element : Local fun text => (Key.read? text).bind fun (path, rest) =>
      expect? ']' (expect? ']' fun rest => some (some (element path), rest)) rest :=
    Key.local_read?.bind fun path =>
      local_expect? ']' (local_expect? ']' (local_pure (some (Statement.element path))))
  have header : Local fun text => (Key.read? text).bind fun (path, rest) =>
      expect? ']' (fun rest => some (some (header path), rest)) rest :=
    Key.local_read?.bind fun path => local_expect? ']' (local_pure (some (Statement.header path)))
  have entry : Local fun text => (Value.member? (Value.read? Key.maxDepth) text).map
      fun ((key, item), rest) => (some (entry key item), rest) :=
    (Value.local_member? (Value.local_read? _)).map fun member =>
      some (Statement.entry member.1 member.2)
  have bracketed : Local fun text =>
      if text.head? = some '[' then
        (Key.read? text.tail).bind fun (path, rest) =>
          expect? ']' (expect? ']' fun rest => some (some (Statement.element path), rest)) rest
      else
        (Key.read? text).bind fun (path, rest) =>
          expect? ']' (fun rest => some (some (Statement.header path), rest)) rest :=
    .ofHead (· = some '[') element.behind header (fun _ head => if_pos head)
      (fun _ head => if_neg head)
  have plain : Local fun text =>
      if IsNothing text.head? then some (none, text)
      else (Value.member? (Value.read? Key.maxDepth) text).map
        fun ((key, item), rest) => (some (Statement.entry key item), rest) :=
    .ofHead IsNothing (local_pure none) entry (fun _ head => if_pos head)
      (fun _ head => if_neg head)
  refine .ofHead (· = some '[') bracketed.behind plain ?_ ?_
  · intro text head
    obtain ⟨text, rfl⟩ := List.head?_eq_some_iff.mp head
    rw [List.tail_cons]
    split
    case isTrue double =>
      obtain ⟨text, rfl⟩ := List.head?_eq_some_iff.mp double
      exact read?_element text
    case isFalse single => exact read?_header single
  · intro text head
    split
    case isTrue nothing => exact read?_nothing nothing
    case isFalse something => exact read?_entry something head

end Statement

/-! Lines. -/

/-- Skips blanks and a comment. -/
def skipRemark (text : List Char) : List Char :=
  match skipGap text with
  | '#' :: rest => skipComment rest
  | rest => rest

theorem endLine?_eq (text : List Char) :
    endLine? text =
      if (skipRemark text).isEmpty then some [] else newline? (skipRemark text) :=
  rfl

theorem skipRemark_of_comment {text rest : List Char} (comment : skipGap text = '#' :: rest) :
    skipRemark text = skipComment rest := by
  rw [skipRemark, comment]
  rfl

theorem skipRemark_of_ne {text : List Char} (other : (skipGap text).head? ≠ some '#') :
    skipRemark text = skipGap text := by
  rw [skipRemark]
  split
  case h_1 comment => exact absurd (congrArg List.head? comment) other
  case h_2 => rfl

theorem skips_skipRemark : Skips skipRemark := by
  intro text rest old h
  by_cases comment : (skipGap text).head? = some '#'
  · obtain ⟨inside, comment⟩ := List.head?_eq_some_iff.mp comment
    rw [skipRemark_of_comment comment] at h
    obtain ⟨middle, rfl, swapComment⟩ := skips_skipComment h
    have shape : skipGap text = ('#' :: middle) ++ '\n' :: old := comment
    obtain ⟨front, rfl, swapGap⟩ := skips_skipGap shape
    refine ⟨front, rfl, fun new => ?_⟩
    exact (skipRemark_of_comment (swapGap new)).trans (swapComment new)
  · rw [skipRemark_of_ne comment] at h
    obtain ⟨front, rfl, swapGap⟩ := skips_skipGap h
    refine ⟨front, rfl, fun new => ?_⟩
    rw [skipRemark_of_ne, swapGap]
    rwa [swapGap, head?_newline rest new old, ← h]

/-- Where a text goes on behind the end of a line, that end is there. -/
theorem exists_of_endLine? {text rest : List Char} (h : endLine? text = some rest)
    (more : rest ≠ []) :
    ∃ front, text = front ++ '\n' :: rest ∧ ∀ new, endLine? (front ++ '\n' :: new) = some new := by
  rw [endLine?_eq] at h
  split at h
  case isTrue => exact absurd (Option.some.inj h).symm more
  case isFalse =>
    obtain ⟨last, shape, ends⟩ : ∃ last, skipRemark text = last ++ '\n' :: rest ∧
        ∀ new, newline? (last ++ '\n' :: new) = some new := by
      unfold newline? at h
      split at h
      case h_1 shape =>
        obtain rfl := Option.some.inj h
        exact ⟨[], shape, fun new => rfl⟩
      case h_2 shape =>
        obtain rfl := Option.some.inj h
        exact ⟨['\r'], shape, fun new => rfl⟩
      case h_3 => contradiction
    obtain ⟨front, rfl, swap⟩ := skips_skipRemark shape
    refine ⟨front, rfl, fun new => ?_⟩
    rw [endLine?_eq, swap, if_neg (by simp), ends]

end Dimensional.Toml
