import Dimensional.Proofs.Text.Classes
import Dimensional.Proofs.Toml.LocalValue

/-!
The statements in front of a place in a document stay the same whatever stands behind the place, and
a key with a string in quotes is a statement.
-/

namespace Dimensional.Toml

/-- Reading a text line by line passes certain statements before it comes to the text `last`. -/
inductive Passes : List Char → List Statement → List Char → Prop
  | done (text : List Char) : Passes text [] text
  | line {text rest behind last : List Char} {statement : Option Statement}
      {statements : List Statement} (read : Statement.read? (skipGap text) = some (statement, rest))
      (ends : endLine? rest = some behind) (shorter : behind.length < text.length)
      (more : Passes behind statements last) : Passes text (statement.toList ++ statements) last

variable {text last : List Char} {statements : List Statement}

theorem statements?_of_passes (h : Passes text statements last) :
    statements? text = (statements? last).map (statements ++ ·) := by
  induction h with
  | done text => simp
  | @line text rest behind last statement statements read ends shorter more ih =>
      have nonempty : text.isEmpty = false := by
        cases text with
        | nil => exact absurd shorter (Nat.not_lt_zero _)
        | cons => rfl
      rw [statements?, nonempty, if_neg Bool.false_ne_true, read]
      simp only [ends, if_pos shorter, ih, Option.map_map]
      exact congrArg (Option.map · _) (funext fun others => (List.append_assoc _ _ _).symm)

/-- What stands behind the place may be exchanged, once a line has been passed. -/
theorem Passes.exchange (h : Passes text statements last) (more : last ≠ []) :
    text = last ∧ statements = [] ∨
      ∃ front, text = front ++ '\n' :: last ∧
        ∀ new, Passes (front ++ '\n' :: new) statements new := by
  induction h with
  | done text => exact .inl ⟨rfl, rfl⟩
  | @line text rest behind last statement statements read ends shorter _ ih =>
      have goesOn : behind ≠ [] := by
        obtain ⟨rfl, -⟩ | ⟨front, rfl, -⟩ := ih more
        · exact more
        · simp
      obtain ⟨middle, rfl, swapEnd⟩ := exists_of_endLine? ends goesOn
      obtain ⟨front, rfl, swap⟩ := Statement.local_read?.after skips_skipGap read
      have step (new : List Char) {statements : List Statement} {last : List Char}
          (more : Passes new statements last) :
          Passes (front ++ '\n' :: new) (statement.toList ++ statements) last :=
        .line (swap new) (swapEnd new) (by simp; omega) more
      obtain ⟨rfl, rfl⟩ | ⟨inner, rfl, swapMore⟩ := ih more
      · exact .inr ⟨front, rfl, fun new => step new (.done new)⟩
      · refine .inr ⟨front ++ '\n' :: inner, by simp, fun new => ?_⟩
        rw [List.append_assoc]
        exact step _ (swapMore new)

/-! A key and a string. -/

section Assignment

/-- What stands for itself between quotes. -/
def IsVerbatim (c : Char) : Prop :=
  isPlain c = true ∧ c ≠ '"' ∧ c ≠ '\\'

variable {word : List Char} {c : Char}

theorem Quoted.basicPiece?_of_isVerbatim (h : IsVerbatim c) (rest : List Char) :
    Quoted.basicPiece? (c :: rest) = some ([c], rest) := by
  unfold basicPiece?
  split
  case h_1 same => exact absurd (List.cons.inj same).1 h.2.2
  case h_2 => exact if_pos h.1

theorem Quoted.body?_of_isVerbatim (h : ∀ c ∈ word, IsVerbatim c) (rest : List Char) :
    Quoted.body? (Quoted.shortEnd? '"') Quoted.basicPiece? (word ++ '"' :: rest) =
      some (word, rest) := by
  induction word with
  | nil =>
      rw [List.nil_append, body?]
      rfl
  | cons c word ih =>
      have verbatim := h c List.mem_cons_self
      have goesOn : shortEnd? '"' (c :: (word ++ '"' :: rest)) = none := if_neg verbatim.2.1
      rw [List.cons_append, body?, goesOn, basicPiece?_of_isVerbatim verbatim]
      simp only [List.length_cons, Nat.lt_succ_self, if_true,
        ih fun d mem => h d (List.mem_cons_of_mem _ mem), Option.map_some, List.singleton_append]

theorem Quoted.read?_of_isVerbatim (nonempty : word ≠ []) (h : ∀ c ∈ word, IsVerbatim c)
    (rest : List Char) : Quoted.read? ('"' :: (word ++ '"' :: rest)) = some (word, rest) := by
  obtain ⟨c, tail, rfl⟩ := List.exists_cons_of_ne_nil nonempty
  have apart : c ≠ '"' := (h c List.mem_cons_self).2.1
  rw [read?_of_take (by simp [apart]) (by simp)]
  exact body?_of_isVerbatim h rest

theorem Value.read?_of_isVerbatim (nonempty : word ≠ []) (h : ∀ c ∈ word, IsVerbatim c)
    (rest : List Char) (depth : Nat) :
    Value.read? depth ('"' :: (word ++ '"' :: rest)) =
      some (.string (String.ofList word), rest) := by
  rw [read?_simple (by simp) (by simp)]
  exact congrArg (Option.map _) (Quoted.read?_of_isVerbatim nonempty h rest)

variable {key : List Char}

/-- A key that needs no quotes. -/
structure IsBareKey (key : List Char) : Prop where
  nonempty : key ≠ []
  bare : ∀ c ∈ key, Key.isBare c = true

theorem isGap_of_isBare (h : Key.isBare c = true) : isGap c = false := by
  rw [isGap, Bool.or_eq_false_iff, beq_eq_false_iff_ne, beq_eq_false_iff_ne]
  constructor <;> rintro rfl <;> contradiction

theorem Key.part?_of_isBareKey (h : IsBareKey key) (rest : List Char) :
    Key.part? (key ++ ' ' :: rest) = some (String.ofList key, ' ' :: rest) := by
  obtain ⟨c, tail, rfl⟩ := List.exists_cons_of_ne_nil h.nonempty
  have first := h.bare c List.mem_cons_self
  have stops : Key.isBare ' ' = false := by decide
  have bare : Key.part? (c :: tail ++ ' ' :: rest) =
      if ((c :: tail ++ ' ' :: rest).takeWhile Key.isBare).isEmpty then none
      else some (String.ofList ((c :: tail ++ ' ' :: rest).takeWhile Key.isBare),
        (c :: tail ++ ' ' :: rest).dropWhile Key.isBare) := by
    unfold Key.part?
    split
    case h_1 same =>
      obtain ⟨rfl, -⟩ := List.cons.inj same
      contradiction
    case h_2 same =>
      obtain ⟨rfl, -⟩ := List.cons.inj same
      contradiction
    case h_3 => rfl
  rw [bare, List.takeWhile_append_of_pos h.bare, List.dropWhile_append_of_pos h.bare,
    List.takeWhile_cons_of_neg (by simp [stops]), List.dropWhile_cons_of_neg (by simp [stops]),
    List.append_nil]
  rfl

theorem Key.read?_of_isBareKey (h : IsBareKey key) (rest : List Char) :
    Key.read? (key ++ ' ' :: '=' :: rest) = some ([String.ofList key], '=' :: rest) := by
  have start : skipGap (key ++ ' ' :: '=' :: rest) = key ++ ' ' :: '=' :: rest := by
    obtain ⟨c, tail, rfl⟩ := List.exists_cons_of_ne_nil h.nonempty
    exact List.dropWhile_cons_of_neg (by simp [isGap_of_isBare (h.bare c List.mem_cons_self)])
  have gap : skipGap (' ' :: '=' :: rest) = '=' :: rest := rfl
  have parts : Key.parts? (key ++ ' ' :: '=' :: rest) =
      some ([String.ofList key], '=' :: rest) := by
    rw [Key.parts?_last ((congrArg Key.part? start).trans (Key.part?_of_isBareKey h _))
      (by rw [gap]; simp), gap]
  rw [Key.read?, parts]
  rfl

theorem Statement.read?_assignment (isKey : IsBareKey key) (nonempty : word ≠ [])
    (h : ∀ c ∈ word, IsVerbatim c) (rest : List Char) :
    Statement.read? (key ++ ' ' :: '=' :: ' ' :: '"' :: (word ++ '"' :: rest)) =
      some (some (.entry [String.ofList key] (.string (String.ofList word))), rest) := by
  have value := Value.read?_of_isVerbatim nonempty h rest Key.maxDepth
  have member : Value.member? (Value.read? Key.maxDepth)
      (key ++ ' ' :: '=' :: ' ' :: '"' :: (word ++ '"' :: rest)) =
        some (([String.ofList key], .string (String.ofList word)), rest) := by
    rw [Value.member?_eq, Key.read?_of_isBareKey isKey, Option.bind_some]
    dsimp only
    rw [expect?_cons]
    exact congrArg (Option.map _) value
  obtain ⟨c, tail, rfl⟩ := List.exists_cons_of_ne_nil isKey.nonempty
  have first := isKey.bare c List.mem_cons_self
  rw [read?_entry, member]
  · rfl
  · rintro (same | same | same | same)
    · contradiction
    all_goals
      obtain rfl := Option.some.inj same
      contradiction
  · intro same
    obtain rfl := Option.some.inj same
    contradiction

end Assignment

end Dimensional.Toml
