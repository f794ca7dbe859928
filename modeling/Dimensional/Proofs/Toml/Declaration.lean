import Dimensional.Proofs.Toml.Document
import Dimensional.Proofs.Toml.Table

/-!
The line on which a document declares a string may be exchanged for one that declares another, and
the document declares the other then.
-/

namespace Dimensional.Toml

variable {text line behind : List Char} {statement : Statement} {statements : List Statement}

/-- The line in front of a text is a statement. -/
def States (line behind : List Char) (statement : Statement) : Prop :=
  line ≠ [] ∧ ∃ rest, Statement.read? (skipGap (line ++ behind)) = some (some statement, rest) ∧
    endLine? rest = some behind

theorem States.passes (h : States line behind statement) :
    Passes (line ++ behind) [statement] behind := by
  obtain ⟨nonempty, rest, read, ends⟩ := h
  have shorter : behind.length < (line ++ behind).length := by
    have := List.length_pos_iff.mpr nonempty
    rw [List.length_append]
    omega
  exact .line read ends shorter (.done behind)

/-- A key and a string in quotes, with blanks in front and the end of the line behind. -/
theorem states_assignment {gaps key word ending : List Char} (gap : ∀ c ∈ gaps, isGap c = true)
    (isKey : IsBareKey key) (nonempty : word ≠ []) (verbatim : ∀ c ∈ word, IsVerbatim c)
    (ends : endLine? (ending ++ behind) = some behind) :
    States (gaps ++ key ++ [' ', '=', ' ', '"'] ++ word ++ ['"'] ++ ending) behind
      (.entry [String.ofList key] (.string (String.ofList word))) := by
  refine ⟨by simp, ending ++ behind, ?_, ends⟩
  have start : skipGap (gaps ++ key ++ [' ', '=', ' ', '"'] ++ word ++ ['"'] ++ ending ++ behind) =
      key ++ ' ' :: '=' :: ' ' :: '"' :: (word ++ '"' :: (ending ++ behind)) := by
    obtain ⟨c, tail, rfl⟩ := List.exists_cons_of_ne_nil isKey.nonempty
    have solid := isGap_of_isBare (isKey.bare c List.mem_cons_self)
    simp only [List.append_assoc]
    rw [skipGap, List.dropWhile_append_of_pos gap, List.cons_append,
      List.dropWhile_cons_of_neg (by simp [solid])]
    rfl
  rw [start]
  exact Statement.read?_assignment isKey nonempty verbatim _

theorem Passes.trans {middle last : List Char} {more : List Statement}
    (first : Passes text statements middle) (second : Passes middle more last) :
    Passes text (statements ++ more) last := by
  induction first with
  | done => exact second
  | line read ends shorter _ ih =>
      rw [List.append_assoc]
      exact .line read ends shorter (ih second)

/-! What stands behind the front of a document may be exchanged. -/

theorem dropMark_append {front : List Char} (nonempty : front ≠ []) (behind : List Char) :
    dropMark (front ++ behind) = dropMark front ++ behind := by
  obtain ⟨c, front, rfl⟩ := List.exists_cons_of_ne_nil nonempty
  by_cases mark : c = '\ufeff'
  · subst mark
    rfl
  · have kept (text : List Char) : dropMark (c :: text) = c :: text := by
      unfold dropMark
      split
      · rename_i same
        exact absurd (List.cons.inj same).1 mark
      · rfl
    rw [List.cons_append, kept, kept, List.cons_append]

theorem length_dropMark_le (text : List Char) : (dropMark text).length ≤ text.length := by
  unfold dropMark
  split <;> simp

theorem Passes.exchange_behind {front old : List Char}
    (h : Passes (dropMark (front ++ old)) statements old) (more : old ≠ [])
    (passed : statements ≠ []) (new : List Char) :
    Passes (dropMark (front ++ new)) statements new := by
  obtain ⟨-, rfl⟩ | ⟨inner, shape, swap⟩ := h.exchange more
  · exact absurd rfl passed
  · have nonempty : front ≠ [] := by
      rintro rfl
      have short := length_dropMark_le old
      rw [List.nil_append] at shape
      rw [shape, List.length_append, List.length_cons] at short
      omega
    rw [dropMark_append nonempty] at shape ⊢
    have front_ : dropMark front = inner ++ ['\n'] :=
      List.append_cancel_right (shape.trans (List.append_assoc inner ['\n'] old).symm)
    rw [front_, List.append_assoc]
    exact swap new

/-- A line of a document gives a string to a key below the header that is open there, and the
document holds the string under the header from there on. -/
structure IsDeclaration (header : List String) (key old : String) (text line behind : List Char)
    (statements : List Statement) (draft next : Draft) : Prop where
  passes : Passes (dropMark text) statements (line ++ behind)
  drafted : statements.foldlM Draft.obey ⟨[], []⟩ = some draft
  below : draft.header = header
  states : States line behind (.entry [key] (.string old))
  obeyed : draft.obey (.entry [key] (.string old)) = some next
  holds : next.root.at? (header ++ [key]) = some (.string old)

theorem foldlM_obey_of_drafted {draft : Draft}
    (drafted : statements.foldlM Draft.obey ⟨[], []⟩ = some draft) (statement : Statement)
    (others : List Statement) :
    (statements ++ [statement] ++ others).foldlM Draft.obey ⟨[], []⟩ =
      (draft.obey statement).bind fun next => others.foldlM Draft.obey next := by
  rw [List.append_assoc, List.foldlM_append, drafted]
  rfl

/-- The document is read with the other string. -/
theorem IsDeclaration.text?_exchange {header : List String} {key old other : String}
    {front new : List Char} {draft next : Draft} {root : Table}
    (h : IsDeclaration header key old (front ++ (line ++ behind)) line behind statements draft next)
    (named : header ≠ []) (valid : read? (front ++ (line ++ behind)) = some root)
    (states : States new behind (.entry [key] (.string other))) :
    text? (front ++ (new ++ behind)) (header ++ [key]) = some other := by
  obtain ⟨passes, drafted, rfl, statesOld, obeyed, holds⟩ := h
  have passed : statements ≠ [] := by
    rintro rfl
    obtain rfl := Option.some.inj drafted
    exact named rfl
  have goesOn : line ++ behind ≠ [] := List.append_ne_nil_of_left_ne_nil statesOld.1 behind
  -- The statements behind the line, and what the old document makes of them.
  obtain ⟨all, readAll, made⟩ := Option.bind_eq_some_iff.mp valid
  rw [statements?_of_passes (passes.trans statesOld.passes)] at readAll
  obtain ⟨others, readOthers, rfl⟩ := Option.map_eq_some_iff.mp readAll
  obtain ⟨last, obeyedAll, rfl⟩ := Option.map_eq_some_iff.mp made
  rw [foldlM_obey_of_drafted drafted, obeyed, Option.bind_some] at obeyedAll
  -- The new line adds the other string, and nothing behind it sees the difference.
  obtain ⟨table, done, rfl⟩ := Option.map_eq_some_iff.mp obeyed
  obtain ⟨table', done', sameTable⟩ := Table.exists_sameBut_of_assign done holds other
  have sameNext : Draft.SameBut old other (draft.header ++ [key]) ⟨table, draft.header⟩
      ⟨table', draft.header⟩ := ⟨sameTable, rfl⟩
  obtain ⟨last', obeyedOthers, sameLast⟩ := sameNext.foldlM_obey obeyedAll
  have obeyedNew : draft.obey (.entry [key] (.string other)) = some ⟨table', draft.header⟩ :=
    Option.map_eq_some_iff.mpr ⟨table', done', rfl⟩
  have readNew : read? (front ++ (new ++ behind)) = some last'.root := by
    rw [read?, statements?_of_passes ((passes.exchange_behind goesOn passed _).trans states.passes),
      readOthers]
    change ofStatements? _ = _
    rw [ofStatements?, foldlM_obey_of_drafted drafted, obeyedNew, Option.bind_some, obeyedOthers]
    rfl
  rw [text?, readNew]
  exact congrArg (Option.bind · Item.text?) sameLast.1.at?

end Dimensional.Toml
