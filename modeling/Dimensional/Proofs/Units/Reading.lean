import Dimensional.Proofs.Units.Power

/-!
The parser accepts the texts of the grammar and nothing else, and answers with what they denote.
Groups and expressions are read by loops; a loop carries the tree of what has been taken so far.
-/

namespace Dimensional.Units

open Text

namespace Grammar

mutual
theorem Expression.exists_not_blank :
    (tree : Expression) → ∃ c ∈ tree.text, isBlank c = false
  | .group only => only.exists_not_blank
  | .times left gap right => by
      obtain ⟨c, mem, notBlank⟩ := left.exists_not_blank
      exact ⟨c, by simp [Expression.text, mem], notBlank⟩
  | .over left gap right => by
      obtain ⟨c, mem, notBlank⟩ := left.exists_not_blank
      exact ⟨c, by simp [Expression.text, mem], notBlank⟩

theorem Group.exists_not_blank : (tree : Group) → ∃ c ∈ tree.text, isBlank c = false
  | .factor only => only.exists_not_blank
  | .hyphen left gap right => by
      obtain ⟨c, mem, notBlank⟩ := left.exists_not_blank
      exact ⟨c, by simp [Group.text, mem], notBlank⟩

theorem Factor.exists_not_blank : (tree : Factor) → ∃ c ∈ tree.text, isBlank c = false
  | .one gap power => ⟨'1', by simp [Factor.text], by decide⟩
  | .symbol gap name power => by
      obtain ⟨c, tail, shape, letter⟩ := name.exists_cons
      exact ⟨c, by simp [Factor.text, shape], isBlank_of_isAlphabetic letter⟩
  | .parenthesised gap inside last power => ⟨'(', by simp [Factor.text], by decide⟩
end

theorem Expression.text_not_blank (tree : Expression) (last : Blanks) :
    (tree.text ++ last.text).all isBlank = false := by
  obtain ⟨c, mem, notBlank⟩ := tree.exists_not_blank
  exact List.all_eq_false.mpr ⟨c, by simp [mem], by simp [notBlank]⟩

end Grammar

namespace Reader

open Grammar

/-- A reader takes the texts of certain trees off the front, where these may end, and nothing
else. -/
structure Reads {Tree : Type} (text : Tree → List Char) (denotes : Tree → Measure → Prop)
    (marks : List Char) (read : Reader Measure) : Prop where
  complete : ∀ {tree m rest}, denotes tree m → Follows marks rest →
    read (text tree ++ rest) = .ok (m, rest)
  sound : ∀ {whole m rest}, read whole = .ok (m, rest) →
    ∃ tree, whole = text tree ++ rest ∧ denotes tree m

def ReadsFactors (registry : Registry) (depth : Nat) (read : Reader Measure) : Prop :=
  Reads Factor.text (Factor.Denotes registry depth) factorMarks read

def ReadsGroups (registry : Registry) (depth : Nat) (read : Reader Measure) : Prop :=
  Reads Group.text (Group.Denotes registry depth) groupMarks read

def ReadsExpressions (registry : Registry) (depth : Nat) (read : Reader Measure) : Prop :=
  Reads Expression.text (Expression.Denotes registry depth) expressionMarks read

section Loops

variable {α : Type} {step : α → List Char → Except Fault (Option (α × List Char))}
  {a b : α} {text rest : List Char}

theorem repeated_of_none (h : step a text = .ok none) :
    repeated step a text = .ok (a, text) := by
  rw [repeated, h]

theorem repeated_of_some (h : step a text = .ok (some (b, rest)))
    (shorter : rest.length < text.length) : repeated step a text = repeated step b rest := by
  rw [repeated, h]
  exact if_pos shorter

/-- What every step preserves holds at the end of the loop. -/
theorem repeated_preserves {P : α → List Char → Prop}
    (preserved : ∀ {a text b rest}, P a text → step a text = .ok (some (b, rest)) → P b rest)
    (start : P a text) (h : repeated step a text = .ok (b, rest)) : P b rest := by
  induction a, text using repeated.induct step with
  | case1 a text f found =>
      rw [repeated, found] at h
      cases h
  | case2 a text found =>
      rw [repeated_of_none found] at h
      cases h
      exact start
  | case3 a text next tail found shorter ih =>
      rw [repeated_of_some found shorter] at h
      exact ih (preserved start found) h
  | case4 a text next tail found stuck =>
      -- The step that takes nothing counts as well.
      rw [repeated, found] at h
      simp only [if_neg stuck] at h
      cases h
      exact preserved start found

end Loops

variable {registry : Registry} {depth : Nat} {read : Reader Measure} {a b m : Measure}
  {text rest : List Char}

/-! Groups: a factor, then one step for each further factor behind a `-`. -/

theorem hyphenStep_of_follows (follows : Follows groupMarks rest) :
    hyphenStep read a rest = .ok none := by
  unfold hyphenStep
  split
  case h_1 start => exact absurd start (follows.ne_cons (by decide))
  case h_2 => rfl

theorem hyphenStep_append (reads : ReadsFactors registry depth read) (gap : Blanks)
    {right : Factor} (denotes : right.Denotes registry depth b) (product : a.mul? b = some m)
    (follows : Follows factorMarks rest) :
    hyphenStep read a (gap.text ++ '-' :: (right.text ++ rest)) = .ok (some (m, rest)) := by
  have notBlank : isBlank '-' = false := by decide
  simp only [hyphenStep, trimStart_append, trimStart_of_not_isBlank _ notBlank,
    reads.complete denotes follows, ok_bind, product]
  rfl

theorem factor_of_hyphenStep (reads : ReadsFactors registry depth read)
    (h : hyphenStep read a text = .ok (some (m, rest))) :
    ∃ (gap : Blanks) (right : Factor) (b : Measure),
      text = gap.text ++ '-' :: (right.text ++ rest) ∧ right.Denotes registry depth b ∧
        a.mul? b = some m := by
  obtain ⟨gap, shape⟩ := exists_blanks text
  unfold hyphenStep at h
  split at h
  case h_1 tail start =>
    obtain ⟨⟨b, behind⟩, taken, h⟩ := bind_eq_ok_iff.mp h
    obtain ⟨⟨result, _⟩, combined, same⟩ := bind_eq_ok_iff.mp h
    obtain ⟨product, rfl⟩ := inRange_eq_ok_iff.mp combined
    obtain ⟨right, rfl, denotes⟩ := reads.sound taken
    cases same
    exact ⟨gap, right, b, by rw [← start]; exact shape, denotes, product⟩
  case h_2 => cases h

/-- Behind the first factors of a group the loop goes on with what they denote. -/
theorem group_append (reads : ReadsFactors registry depth read) :
    (tree : Group) → {m : Measure} → {rest : List Char} → tree.Denotes registry depth m →
      Follows factorMarks rest →
        group read (tree.text ++ rest) = repeated (hyphenStep read) m rest
  | .factor only, m, rest, denotes, follows => by
      rw [Group.text, group, reads.complete (Group.denotes_factor.mp denotes) follows]
      rfl
  | .hyphen left gap right, m, rest, denotes, follows => by
      -- The loop has come to the end of `left` and takes `right` in one step.
      obtain ⟨a, b, denotesL, denotesR, product⟩ := Group.denotes_hyphen.mp denotes
      have mark : Follows factorMarks (gap.text ++ '-' :: (right.text ++ rest)) :=
        (Follows.append_iff gap).mpr (Follows.cons (by decide) (by decide))
      have step := hyphenStep_append reads gap denotesR product follows
      rw [Group.text, List.append_assoc, List.append_assoc, List.cons_append,
        group_append reads left denotesL mark, repeated_of_some step]
      simp only [List.length_append, List.length_cons]
      omega

theorem readsGroups (reads : ReadsFactors registry depth read) :
    ReadsGroups registry depth (group read) := by
  constructor
  case complete =>
    intro tree m rest denotes follows
    rw [group_append reads tree denotes (follows.mono (by decide)),
      repeated_of_none (hyphenStep_of_follows follows)]
  case sound =>
    intro whole m rest h
    obtain ⟨⟨first, behind⟩, taken, looped⟩ := bind_eq_ok_iff.mp h
    -- The loop keeps a tree of all that it has taken, which denotes what it has computed.
    refine repeated_preserves (P := fun m rest => ∃ tree : Group,
      whole = tree.text ++ rest ∧ tree.Denotes registry depth m) ?_ ?_ looped
    · rintro a text b rest ⟨left, rfl, denotes⟩ step
      obtain ⟨gap, right, c, rfl, denotesR, product⟩ := factor_of_hyphenStep reads step
      refine ⟨.hyphen left gap right, ?_,
        Group.denotes_hyphen.mpr ⟨a, c, denotes, denotesR, product⟩⟩
      simp only [Group.text, List.append_assoc, List.cons_append]
    · obtain ⟨only, shape, denotes⟩ := reads.sound taken
      exact ⟨.factor only, shape, denotes⟩

/-! Expressions: a group, then one step for each further group behind a `*` or a `/`. -/

theorem productStep_of_follows (follows : Follows expressionMarks rest) :
    productStep read a rest = .ok none := by
  unfold productStep
  split
  case h_1 start => exact absurd start (follows.ne_cons (by decide))
  case h_2 start => exact absurd start (follows.ne_cons (by decide))
  case h_3 => rfl

theorem productStep_times (reads : ReadsGroups registry depth (group read)) (gap : Blanks)
    {right : Group} (denotes : right.Denotes registry depth b) (product : a.mul? b = some m)
    (follows : Follows groupMarks rest) :
    productStep read a (gap.text ++ '*' :: (right.text ++ rest)) = .ok (some (m, rest)) := by
  have notBlank : isBlank '*' = false := by decide
  simp only [productStep, trimStart_append, trimStart_of_not_isBlank _ notBlank,
    reads.complete denotes follows, ok_bind, product]
  rfl

theorem productStep_over (reads : ReadsGroups registry depth (group read)) (gap : Blanks)
    {right : Group} (denotes : right.Denotes registry depth b) (quotient : a.div? b = some m)
    (follows : Follows groupMarks rest) :
    productStep read a (gap.text ++ '/' :: (right.text ++ rest)) = .ok (some (m, rest)) := by
  have notBlank : isBlank '/' = false := by decide
  simp only [productStep, trimStart_append, trimStart_of_not_isBlank _ notBlank,
    reads.complete denotes follows, ok_bind, quotient]
  rfl

theorem group_of_productStep (reads : ReadsGroups registry depth (group read))
    (h : productStep read a text = .ok (some (m, rest))) :
    ∃ (gap : Blanks) (right : Group) (b : Measure), right.Denotes registry depth b ∧
      (text = gap.text ++ '*' :: (right.text ++ rest) ∧ a.mul? b = some m ∨
        text = gap.text ++ '/' :: (right.text ++ rest) ∧ a.div? b = some m) := by
  obtain ⟨gap, shape⟩ := exists_blanks text
  unfold productStep at h
  split at h
  case h_1 tail start =>
    obtain ⟨⟨b, behind⟩, taken, h⟩ := bind_eq_ok_iff.mp h
    obtain ⟨⟨result, _⟩, combined, same⟩ := bind_eq_ok_iff.mp h
    obtain ⟨product, rfl⟩ := inRange_eq_ok_iff.mp combined
    obtain ⟨right, rfl, denotes⟩ := reads.sound taken
    cases same
    exact ⟨gap, right, b, denotes, .inl ⟨by rw [← start]; exact shape, product⟩⟩
  case h_2 tail start =>
    obtain ⟨⟨b, behind⟩, taken, h⟩ := bind_eq_ok_iff.mp h
    obtain ⟨⟨result, _⟩, combined, same⟩ := bind_eq_ok_iff.mp h
    obtain ⟨quotient, rfl⟩ := inRange_eq_ok_iff.mp combined
    obtain ⟨right, rfl, denotes⟩ := reads.sound taken
    cases same
    exact ⟨gap, right, b, denotes, .inr ⟨by rw [← start]; exact shape, quotient⟩⟩
  case h_3 => cases h

/-- Behind the first groups of an expression the loop goes on with what they denote. -/
theorem expression_append (reads : ReadsGroups registry depth (group read)) :
    (tree : Expression) → {m : Measure} → {rest : List Char} → tree.Denotes registry depth m →
      Follows groupMarks rest →
        expression read (tree.text ++ rest) = repeated (productStep read) m rest
  | .group only, m, rest, denotes, follows => by
      rw [Expression.text, expression, reads.complete (Expression.denotes_group.mp denotes) follows]
      rfl
  | .times left gap right, m, rest, denotes, follows => by
      obtain ⟨a, b, denotesL, denotesR, product⟩ := Expression.denotes_times.mp denotes
      have mark : Follows groupMarks (gap.text ++ '*' :: (right.text ++ rest)) :=
        (Follows.append_iff gap).mpr (Follows.cons (by decide) (by decide))
      have step := productStep_times reads gap denotesR product follows
      rw [Expression.text, List.append_assoc, List.append_assoc, List.cons_append,
        expression_append reads left denotesL mark, repeated_of_some step]
      simp only [List.length_append, List.length_cons]
      omega
  | .over left gap right, m, rest, denotes, follows => by
      obtain ⟨a, b, denotesL, denotesR, quotient⟩ := Expression.denotes_over.mp denotes
      have mark : Follows groupMarks (gap.text ++ '/' :: (right.text ++ rest)) :=
        (Follows.append_iff gap).mpr (Follows.cons (by decide) (by decide))
      have step := productStep_over reads gap denotesR quotient follows
      rw [Expression.text, List.append_assoc, List.append_assoc, List.cons_append,
        expression_append reads left denotesL mark, repeated_of_some step]
      simp only [List.length_append, List.length_cons]
      omega

theorem readsExpressions (factors : ReadsFactors registry depth read) :
    ReadsExpressions registry depth (expression read) := by
  have reads := readsGroups factors
  constructor
  case complete =>
    intro tree m rest denotes follows
    rw [expression_append reads tree denotes (follows.mono (by decide)),
      repeated_of_none (productStep_of_follows follows)]
  case sound =>
    intro whole m rest h
    obtain ⟨⟨first, behind⟩, taken, looped⟩ := bind_eq_ok_iff.mp h
    refine repeated_preserves (P := fun m rest => ∃ tree : Expression,
      whole = tree.text ++ rest ∧ tree.Denotes registry depth m) ?_ ?_ looped
    · rintro a text b rest ⟨left, rfl, denotesL⟩ step
      obtain ⟨gap, right, c, denotesR, ⟨rfl, product⟩ | ⟨rfl, quotient⟩⟩ :=
        group_of_productStep reads step
      · refine ⟨.times left gap right, ?_,
          Expression.denotes_times.mpr ⟨a, c, denotesL, denotesR, product⟩⟩
        simp only [Expression.text, List.append_assoc, List.cons_append]
      · refine ⟨.over left gap right, ?_,
          Expression.denotes_over.mpr ⟨a, c, denotesL, denotesR, quotient⟩⟩
        simp only [Expression.text, List.append_assoc, List.cons_append]
    · obtain ⟨only, shape, denotes⟩ := reads.sound taken
      exact ⟨.group only, shape, denotes⟩

/-! Factors, by what they start with. -/

variable {inner : Option (Reader Measure)}

theorem factorWith_one (gap : Blanks) (tail : List Char) :
    factorWith registry inner (gap.text ++ '1' :: tail) = number ('1' :: tail) := by
  rw [factorWith, trimStart_append, trimStart_of_not_isBlank tail (by decide)]
  rfl

theorem factorWith_letter (gap : Blanks) {c : Char} (letter : isAlphabetic c = true)
    (tail : List Char) :
    factorWith registry inner (gap.text ++ c :: tail) = symbol registry (c :: tail) := by
  have notOpen : c ≠ '(' := by
    rintro rfl
    exact absurd letter (by decide)
  have notDigit : ¬ c.isDigit = true := by simp [isDigit_of_isAlphabetic letter]
  rw [factorWith, trimStart_append, trimStart_of_not_isBlank tail (isBlank_of_isAlphabetic letter)]
  simp only [if_neg notOpen, if_neg notDigit, if_pos letter]

theorem factorWith_open (gap : Blanks) (tail : List Char) :
    factorWith registry (some read) (gap.text ++ '(' :: tail) = (do
      let (m, rest) ← read tail
      let rest ← close .closing rest
      powered m rest) := by
  rw [factorWith, trimStart_append, trimStart_of_not_isBlank tail (by decide)]
  rfl

/-- What reads the inside of parentheses when `depth` of them may still be opened. -/
def ReadsInside (registry : Registry) (depth : Nat) : Option (Reader Measure) → Prop
  | none => depth = 0
  | some read => ∃ further, depth = further + 1 ∧ ReadsExpressions registry further read

theorem factorWith_append (reads : ReadsInside registry depth inner) {tree : Factor}
    (denotes : tree.Denotes registry depth m) (follows : Follows factorMarks rest) :
    factorWith registry inner (tree.text ++ rest) = .ok (m, rest) := by
  cases tree with
  | one gap power =>
      obtain ⟨fits, value⟩ := Factor.denotes_one.mp denotes
      rw [Factor.text, List.append_assoc, List.cons_append, factorWith_one]
      exact number_append power fits value follows
  | symbol gap name power =>
      obtain ⟨fits, unit, known, value⟩ := Factor.denotes_symbol.mp denotes
      obtain ⟨c, tail, shape, letter⟩ := name.exists_cons
      -- Which reader a factor goes to is decided by its first character.
      have front : name.text ++ (power.text ++ rest) = c :: (tail ++ (power.text ++ rest)) := by
        rw [shape, List.cons_append]
      rw [Factor.text, List.append_assoc, List.append_assoc, front, factorWith_letter gap letter,
        ← front]
      exact symbol_append name power fits known value follows
  | parenthesised gap inside last power =>
      obtain ⟨further, unit, rfl, denotesIn, fits, value⟩ :=
        Factor.denotes_parenthesised.mp denotes
      cases inner with
      | none => cases reads
      | some read =>
          obtain ⟨_, same, reads⟩ := reads
          cases same
          -- Inside, the expression ends at the closing parenthesis.
          have closes : Follows expressionMarks (last.text ++ ')' :: (power.text ++ rest)) :=
            (Follows.append_iff last).mpr (Follows.cons (by decide) (by decide))
          have taken := reads.complete denotesIn closes
          simp only [Factor.text, List.append_assoc, List.cons_append, factorWith_open, taken,
            ok_bind, close_append]
          exact powered_append power fits value follows

theorem tree_of_factorWith (reads : ReadsInside registry depth inner)
    (h : factorWith registry inner text = .ok (m, rest)) :
    ∃ tree : Factor, text = tree.text ++ rest ∧ tree.Denotes registry depth m := by
  obtain ⟨gap, shape⟩ := exists_blanks text
  cases start : trimStart text with
  | nil =>
      rw [factorWith, start] at h
      exact absurd h missing_ne_ok
  | cons c tail =>
      rw [factorWith, start] at h
      rw [start] at shape
      simp only at h
      split at h
      case isTrue isOpen =>
        subst isOpen
        cases inner with
        | none => exact absurd h fault_ne_ok
        | some read =>
            obtain ⟨further, rfl, reads⟩ := reads
            obtain ⟨⟨unit, behind⟩, taken, afterIn⟩ := bind_eq_ok_iff.mp h
            obtain ⟨afterClose, closed, raised⟩ := bind_eq_ok_iff.mp afterIn
            obtain ⟨inside, rfl, denotesIn⟩ := reads.sound taken
            obtain ⟨last, rfl⟩ := blanks_of_close closed
            obtain ⟨power, rfl, fits, value⟩ := power_of_powered raised
            refine ⟨.parenthesised gap inside last power, ?_,
              Factor.denotes_parenthesised.mpr ⟨further, unit, rfl, denotesIn, fits, value⟩⟩
            rw [shape]
            simp only [Factor.text, List.append_assoc, List.cons_append]
      case isFalse =>
        split at h
        case isTrue digit =>
          obtain ⟨power, shape', fits, value⟩ := power_of_number h
          refine ⟨.one gap power, ?_, Factor.denotes_one.mpr ⟨fits, value⟩⟩
          rw [shape, shape', Factor.text, List.append_assoc, List.cons_append]
        case isFalse =>
          split at h
          case isTrue letter =>
            obtain ⟨name, power, unit, shape', fits, known, value⟩ := name_of_symbol letter h
            refine ⟨.symbol gap name power, ?_,
              Factor.denotes_symbol.mpr ⟨fits, unit, known, value⟩⟩
            rw [shape, shape', Factor.text, List.append_assoc, List.append_assoc]
          case isFalse => exact absurd h missing_ne_ok

theorem readsFactors_factorWith (inner : Option (Reader Measure))
    (reads : ReadsInside registry depth inner) :
    ReadsFactors registry depth (factorWith registry inner) where
  complete := factorWith_append reads
  sound := tree_of_factorWith reads

/-- By induction on how many parentheses may still be opened. -/
theorem readsFactors (registry : Registry) :
    (depth : Nat) → ReadsFactors registry depth (factor registry depth)
  | 0 => readsFactors_factorWith none rfl
  | further + 1 =>
      readsFactors_factorWith (some (expression (factor registry further)))
        ⟨further, rfl, readsExpressions (readsFactors registry further)⟩

end Reader

namespace Registry

open Grammar Reader

theorem read_blanks {registry : Registry} {text : List Char}
    (blank : ∀ c ∈ text, isBlank c = true) : registry.read text = .ok .one :=
  if_pos (List.all_eq_true.mpr blank)

theorem read_append {registry : Registry} {tree : Expression} {m : Measure}
    (denotes : tree.Denotes registry maxDepth m) (last : Blanks) :
    registry.read (tree.text ++ last.text) = .ok m := by
  have follows : Follows expressionMarks last.text := by
    simpa using (Follows.append_iff last).mpr (Follows.nil expressionMarks)
  have taken := (readsExpressions (readsFactors registry maxDepth)).complete denotes follows
  have ended : trimStart last.text = [] := by
    simpa [trimStart] using trimStart_append last []
  simp only [read, tree.text_not_blank last, Bool.false_eq_true, if_false, taken, ok_bind, ended]
  rfl

theorem tree_of_read {registry : Registry} {text : List Char} {m : Measure}
    (h : registry.read text = .ok m) :
    ((∀ c ∈ text, isBlank c = true) ∧ m = .one) ∨
      ∃ (tree : Expression) (last : Blanks),
        text = tree.text ++ last.text ∧ tree.Denotes registry maxDepth m := by
  unfold read at h
  split at h
  case isTrue blank =>
    cases h
    exact .inl ⟨List.all_eq_true.mp blank, rfl⟩
  case isFalse =>
    obtain ⟨⟨result, rest⟩, taken, ends⟩ := bind_eq_ok_iff.mp h
    obtain ⟨tree, rfl, denotes⟩ :=
      (readsExpressions (readsFactors registry maxDepth)).sound taken
    obtain ⟨last, shape⟩ := exists_blanks rest
    simp only at ends
    split at ends
    case h_1 ended =>
      cases ends
      rw [ended, List.append_nil] at shape
      exact .inr ⟨tree, last, by rw [shape], denotes⟩
    case h_2 => exact absurd ends fault_ne_ok

theorem parse_eq_ok_iff_read {registry : Registry} {unit : String} {m : Measure} :
    registry.parse unit = .ok m ↔ registry.read unit.toList = .ok m := by
  unfold parse
  cases registry.read unit.toList <;> simp

/-- Blank texts are unitless; any other text has a measure exactly if a tree of the grammar has that
text, white space behind it aside, and denotes the measure. -/
theorem parse_eq_ok_iff_grammar (registry : Registry) (unit : String) (m : Measure) :
    registry.parse unit = .ok m ↔
      ((∀ c ∈ unit.toList, isBlank c = true) ∧ m = .one) ∨
        ∃ (tree : Expression) (last : Blanks), unit.toList = tree.text ++ last.text ∧
          tree.nesting ≤ maxDepth ∧ tree.Admissible registry ∧ tree.value? registry = some m := by
  rw [parse_eq_ok_iff_read]
  constructor
  · exact tree_of_read
  · rintro (⟨blank, rfl⟩ | ⟨tree, last, shape, denotes⟩)
    · exact read_blanks blank
    · rw [shape]
      exact read_append denotes last

end Registry

end Dimensional.Units
