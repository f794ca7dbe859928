import Dimensional.Toml.Document

/-!
Readers of TOML are local: what they take from the front of a text, up to a place before the end of
a line, does not depend on what stands behind that end.
-/

namespace Dimensional.Toml

/-- When the end of a line is left, what stands behind it may be exchanged. -/
def Local {α : Type} (read : Reader α) : Prop :=
  ∀ ⦃text a rest old⦄, read text = some (a, rest ++ '\n' :: old) →
    ∃ front, text = front ++ '\n' :: old ∧
      ∀ new, read (front ++ '\n' :: new) = some (a, rest ++ '\n' :: new)

/-- The same for what only skips a part of the text. -/
def Skips (skip : List Char → List Char) : Prop :=
  ∀ ⦃text rest old⦄, skip text = rest ++ '\n' :: old →
    ∃ front, text = front ++ '\n' :: old ∧
      ∀ new, skip (front ++ '\n' :: new) = rest ++ '\n' :: new

/-- The same for what skips a part of the text if it is there. -/
def SkipsSome (skip : List Char → Option (List Char)) : Prop :=
  ∀ ⦃text rest old⦄, skip text = some (rest ++ '\n' :: old) →
    ∃ front, text = front ++ '\n' :: old ∧
      ∀ new, skip (front ++ '\n' :: new) = some (rest ++ '\n' :: new)

/-- Whether there is something to take is decided before the end of the line. -/
def Decided {β : Type} (read : List Char → Option β) : Prop :=
  ∀ ⦃front old⦄, read (front ++ '\n' :: old) = none → ∀ new, read (front ++ '\n' :: new) = none

section Cons

variable {c : Char} {text rest old : List Char}

/-- The first character of what is left is the end of the line, or stands before it. -/
theorem cons_eq_append_newline (h : c :: text = rest ++ '\n' :: old) :
    rest = [] ∧ c = '\n' ∧ text = old ∨
      ∃ front, rest = c :: front ∧ text = front ++ '\n' :: old := by
  cases rest with
  | nil =>
      obtain ⟨rfl, rfl⟩ := List.cons.inj h
      exact .inl ⟨rfl, rfl, rfl⟩
  | cons d front =>
      obtain ⟨rfl, rfl⟩ := List.cons.inj h
      exact .inr ⟨front, rfl, rfl⟩

end Cons

theorem head?_newline (front old new : List Char) :
    (front ++ '\n' :: old).head? = (front ++ '\n' :: new).head? := by
  cases front <;> rfl

theorem length_newline_lt_iff {front rest : List Char} (behind : List Char) :
    (rest ++ '\n' :: behind).length < (front ++ '\n' :: behind).length ↔
      rest.length < front.length := by
  simp

/-! Readers made of local readers. -/

section Combine

variable {α β : Type} {read other : Reader α}

theorem Local.map (isLocal : Local read) (f : α → β) :
    Local fun text => (read text).map fun (a, rest) => (f a, rest) := by
  intro text b rest old h
  obtain ⟨⟨a, left⟩, found, same⟩ := Option.map_eq_some_iff.mp h
  obtain ⟨rfl, rfl⟩ := Prod.mk.inj same
  obtain ⟨front, rfl, swap⟩ := isLocal found
  exact ⟨front, rfl, fun new => congrArg _ (swap new)⟩

/-- The first character decides which of two readers reads. -/
theorem Local.ofHead {which : Reader α} (P : Option Char → Prop) (first : Local read)
    (second : Local other) (holds : ∀ text, P text.head? → which text = read text)
    (fails : ∀ text, ¬P text.head? → which text = other text) : Local which := by
  intro text a rest old h
  by_cases head : P text.head?
  · rw [holds text head] at h
    obtain ⟨front, rfl, swap⟩ := first h
    refine ⟨front, rfl, fun new => ?_⟩
    rw [holds _ (head?_newline front old new ▸ head)]
    exact swap new
  · rw [fails text head] at h
    obtain ⟨front, rfl, swap⟩ := second h
    refine ⟨front, rfl, fun new => ?_⟩
    rw [fails _ (head?_newline front old new ▸ head)]
    exact swap new

theorem Local.bind {next : α → Reader β} (isLocal : Local read) (more : ∀ a, Local (next a)) :
    Local fun text => (read text).bind fun (a, rest) => next a rest := by
  intro text b rest old h
  obtain ⟨⟨a, left⟩, found, h⟩ := Option.bind_eq_some_iff.mp h
  obtain ⟨middle, rfl, swapMore⟩ := more a h
  obtain ⟨front, rfl, swap⟩ := isLocal found
  exact ⟨front, rfl, fun new => Option.bind_eq_some_iff.mpr ⟨_, swap new, swapMore new⟩⟩

theorem Local.after {skip : List Char → List Char} (skips : Skips skip) (isLocal : Local read) :
    Local fun text => read (skip text) := by
  intro text a rest old h
  obtain ⟨middle, shape, swap⟩ := isLocal h
  obtain ⟨front, rfl, swapSkip⟩ := skips shape
  exact ⟨front, rfl, fun new => (congrArg read (swapSkip new)).trans (swap new)⟩

theorem local_none : Local fun _ => (none : Option (α × List Char)) := by
  intro text a rest old h
  contradiction

theorem local_pure (a : α) : Local fun text => some (a, text) := by
  intro text b rest old h
  obtain ⟨rfl, rfl⟩ := Prod.mk.inj (Option.some.inj h)
  exact ⟨rest, rfl, fun new => rfl⟩

/-- The first character is taken, and the rest is read. -/
theorem Local.behind (isLocal : Local read) : Local fun text => read text.tail := by
  intro text a rest old h
  obtain ⟨front, shape, swap⟩ := isLocal h
  cases text with
  | nil => simp at shape
  | cons c text =>
      obtain rfl : text = _ := shape
      exact ⟨c :: front, rfl, swap⟩

/-- Reads what stands behind a certain character. -/
def expect? (c : Char) (read : Reader α) : Reader α := fun text =>
  if text.head? = some c then read text.tail else none

theorem expect?_cons (c : Char) (read : Reader α) (rest : List Char) :
    expect? c read (c :: rest) = read rest :=
  if_pos rfl

theorem expect?_of_ne {c : Char} {text : List Char} (other : text.head? ≠ some c)
    (read : Reader α) : expect? c read text = none :=
  if_neg other

theorem local_expect? (c : Char) (isLocal : Local read) : Local (expect? c read) :=
  .ofHead (· = some c) isLocal.behind local_none (fun _ head => if_pos head)
    (fun _ head => if_neg head)

/-- What reads within one line is local. -/
theorem local_of_newline (suffix : ∀ {text a rest}, read text = some (a, rest) → rest <:+ text)
    (oneLine : ∀ front behind, read (front ++ '\n' :: behind) =
      (read front).map fun (a, rest) => (a, rest ++ '\n' :: behind)) : Local read := by
  intro text a rest old h
  obtain ⟨taken, rfl⟩ := suffix h
  rw [← List.append_assoc] at h ⊢
  refine ⟨taken ++ rest, rfl, fun new => ?_⟩
  rw [oneLine] at h ⊢
  obtain ⟨⟨b, left⟩, found, same⟩ := Option.map_eq_some_iff.mp h
  simp only [Prod.mk.injEq] at same
  obtain ⟨rfl, behind⟩ := same
  obtain rfl : left = rest := List.append_cancel_right behind
  rw [found]
  rfl

end Combine

/-! Characters of a class. -/

section Class

variable {p : Char → Bool} (stops : p '\n' = false)
include stops

theorem takeWhile_newline (front behind : List Char) :
    (front ++ '\n' :: behind).takeWhile p = front.takeWhile p := by
  induction front with
  | nil => simp [stops]
  | cons c front ih => simp only [List.cons_append, List.takeWhile_cons, ih]

theorem dropWhile_newline (front behind : List Char) :
    (front ++ '\n' :: behind).dropWhile p = front.dropWhile p ++ '\n' :: behind := by
  induction front with
  | nil => simp [stops]
  | cons c front ih =>
      simp only [List.cons_append, List.dropWhile_cons, ih]
      split <;> rfl

theorem exists_of_dropWhile {text rest old : List Char}
    (h : text.dropWhile p = rest ++ '\n' :: old) :
    ∃ front, text = front ++ '\n' :: old ∧ rest = front.dropWhile p := by
  have whole : text = (text.takeWhile p ++ rest) ++ '\n' :: old := by
    rw [List.append_assoc, ← h, List.takeWhile_append_dropWhile]
  refine ⟨text.takeWhile p ++ rest, whole, ?_⟩
  rw [whole, dropWhile_newline stops] at h
  exact (List.append_cancel_right h).symm

theorem skips_dropWhile : Skips (List.dropWhile p) := by
  intro text rest old h
  obtain ⟨front, whole, rfl⟩ := exists_of_dropWhile stops h
  exact ⟨front, whole, fun new => dropWhile_newline stops front new⟩

end Class

theorem skips_skipGap : Skips skipGap :=
  skips_dropWhile (by decide)

theorem skips_skipComment : Skips skipComment :=
  skips_dropWhile (by decide)

/-! Ends of lines. -/

theorem newline?_cons {c : Char} (notLine : c ≠ '\n') (notReturn : c ≠ '\r') (text : List Char) :
    newline? (c :: text) = none := by
  unfold newline?
  split <;> simp_all

theorem newline?_return {c : Char} (notLine : c ≠ '\n') (text : List Char) :
    newline? ('\r' :: c :: text) = none := by
  unfold newline?
  split <;> simp_all

theorem skipsSome_newline? : SkipsSome newline? := by
  intro text rest old h
  unfold newline? at h
  split at h
  · obtain rfl := Option.some.inj h
    exact ⟨'\n' :: rest, rfl, fun new => rfl⟩
  · obtain rfl := Option.some.inj h
    exact ⟨'\r' :: '\n' :: rest, rfl, fun new => rfl⟩
  · contradiction

theorem decided_newline? : Decided newline? := by
  intro front old h new
  rcases front with _ | ⟨c, _ | ⟨d, front⟩⟩
  · contradiction
  · by_cases line : c = '\n'
    · subst line
      contradiction
    · by_cases return_ : c = '\r'
      · subst return_
        contradiction
      · exact newline?_cons line return_ _
  · by_cases line : c = '\n'
    · subst line
      contradiction
    · by_cases return_ : c = '\r'
      · subst return_
        by_cases line' : d = '\n'
        · subst line'
          contradiction
        · exact newline?_return line' _
      · exact newline?_cons line return_ _

/-! Strings. -/

namespace Quoted

theorem local_plain? : Local plain? := by
  intro text a rest old h
  cases text with
  | nil => contradiction
  | cons c text =>
      rw [plain?] at h
      split at h
      · rename_i plain
        simp only [Option.some.injEq, Prod.mk.injEq] at h
        obtain ⟨rfl, rfl⟩ := h
        exact ⟨c :: rest, rfl, fun new => if_pos plain⟩
      · contradiction

theorem numbered?_eq_some_iff {width : Nat} {text a left : List Char} :
    numbered? width text = some (a, left) ↔
      (text.take width).length = width ∧ left = text.drop width ∧
        ∃ n c, hexNumber? (text.take width) = some n ∧ scalarValue? n = some c ∧ a = [c] := by
  by_cases wide : (text.take width).length = width
  · simp only [numbered?, wide, ne_eq, not_true_eq_false, if_false, Option.bind_eq_bind,
      Option.bind_eq_some_iff, Option.some.injEq, Prod.mk.injEq, true_and]
    constructor
    · rintro ⟨n, number, c, value, rfl, rfl⟩
      exact ⟨rfl, n, c, number, value, rfl⟩
    · rintro ⟨rfl, n, c, number, value, rfl⟩
      exact ⟨n, number, c, value, rfl, rfl⟩
  · simp only [numbered?, wide, ne_eq, not_false_eq_true, if_true, Option.bind_eq_bind,
      Option.bind_none, reduceCtorEq, false_and]

theorem local_numbered? (width : Nat) : Local (numbered? width) := by
  intro text a rest old h
  obtain ⟨wide, left, n, c, number, value, rfl⟩ := numbered?_eq_some_iff.mp h
  refine ⟨text.take width ++ rest, ?_, fun new => numbered?_eq_some_iff.mpr ?_⟩
  · rw [List.append_assoc, left, List.take_append_drop]
  · rw [List.append_assoc, List.take_left' wide, List.drop_left' wide]
    exact ⟨wide, rfl, n, c, number, value, rfl⟩

theorem local_escape? : Local escape? := by
  intro text a rest old h
  unfold escape? at h
  split at h
  case h_1 | h_2 =>
    obtain ⟨front, rfl, swap⟩ := local_numbered? _ h
    exact ⟨_ :: front, rfl, swap⟩
  case h_10 => contradiction
  all_goals
    simp only [Option.some.injEq, Prod.mk.injEq] at h
    obtain ⟨rfl, rfl⟩ := h
    exact ⟨_ :: rest, rfl, fun new => rfl⟩

theorem local_basicPiece? : Local basicPiece? := by
  refine .ofHead (· = some '\\') local_escape?.behind local_plain? ?_ ?_
  · intro text head
    obtain ⟨text, rfl⟩ := List.head?_eq_some_iff.mp head
    rfl
  · intro text head
    unfold basicPiece?
    split
    · exact absurd rfl head
    · rfl

theorem skipLines_of_isLineSpace {c : Char} (h : isLineSpace c = true) (text : List Char) :
    skipLines (c :: text) = skipLines text := by
  rw [skipLines, if_pos h]
  rintro _ rfl -
  contradiction

theorem skipLines_of_not_isLineSpace {c : Char} {text : List Char} (h : isLineSpace c = false)
    (other : c = '\r' → text.head? ≠ some '\n') : skipLines (c :: text) = c :: text := by
  rw [skipLines, if_neg (by simp [h])]
  rintro _ return_ rfl
  exact other return_ rfl

theorem skips_skipLines : Skips skipLines := by
  intro text rest old h
  fun_induction skipLines text with
  | case1 text ih =>
      obtain ⟨front, rfl, swap⟩ := ih h
      exact ⟨'\r' :: '\n' :: front, rfl, swap⟩
  | case2 c text other space ih =>
      obtain ⟨front, rfl, swap⟩ := ih h
      exact ⟨c :: front, rfl, fun new => (skipLines_of_isLineSpace space _).trans (swap new)⟩
  | case3 c text other notSpace =>
      refine ⟨rest, h, fun new => ?_⟩
      obtain ⟨rfl, rfl, -⟩ | ⟨front, rfl, rfl⟩ := cons_eq_append_newline h
      · contradiction
      · refine skipLines_of_not_isLineSpace (by simpa using notSpace) fun return_ => ?_
        intro line
        rw [List.append_eq, head?_newline front new old] at line
        obtain ⟨tail, same⟩ := List.head?_eq_some_iff.mp line
        exact other tail return_ same
  | case4 => simp at h

theorem skipsSome_joined? : SkipsSome joined? := by
  intro text rest old h
  obtain ⟨middle, ended, skipped⟩ := Option.map_eq_some_iff.mp h
  obtain ⟨middle, rfl, swapLines⟩ := skips_skipLines skipped
  obtain ⟨gapless, shape, swapNewline⟩ := skipsSome_newline? ended
  obtain ⟨front, rfl, swapGap⟩ := skips_skipGap shape
  refine ⟨front, rfl, fun new => ?_⟩
  rw [joined?, swapGap, swapNewline, Option.map_some, swapLines]

theorem decided_joined? : Decided joined? := by
  intro front old h new
  have gap (behind : List Char) := dropWhile_newline (p := isGap) (by decide) front behind
  rw [joined?, skipGap, Option.map_eq_none_iff, gap] at h ⊢
  exact decided_newline? h new

theorem local_longLiteralPiece? : Local longLiteralPiece? := by
  intro text a rest old h
  simp only [longLiteralPiece?] at h ⊢
  cases ended : newline? text with
  | some left =>
      rw [ended] at h
      simp only [Option.some.injEq, Prod.mk.injEq] at h
      obtain ⟨rfl, rfl⟩ := h
      obtain ⟨front, rfl, swap⟩ := skipsSome_newline? ended
      exact ⟨front, rfl, fun new => by rw [swap]⟩
  | none =>
      rw [ended] at h
      obtain ⟨front, rfl, swap⟩ := local_plain? h
      refine ⟨front, rfl, fun new => ?_⟩
      rw [decided_newline? ended]
      exact swap new

/-- What a backslash starts in a string of several lines. -/
theorem local_longEscape? : Local fun text =>
    match joined? text with
    | some rest => some ([], rest)
    | none => escape? text := by
  intro text a rest old h
  dsimp only at h ⊢
  cases joined : joined? text with
  | some left =>
      rw [joined] at h
      simp only [Option.some.injEq, Prod.mk.injEq] at h
      obtain ⟨rfl, rfl⟩ := h
      obtain ⟨front, rfl, swap⟩ := skipsSome_joined? joined
      exact ⟨front, rfl, fun new => by rw [swap]⟩
  | none =>
      rw [joined] at h
      obtain ⟨front, rfl, swap⟩ := local_escape? h
      exact ⟨front, rfl, fun new => by rw [decided_joined? joined, swap]⟩

theorem local_longBasicPiece? : Local longBasicPiece? := by
  refine .ofHead (· = some '\\') local_longEscape?.behind local_longLiteralPiece? ?_ ?_
  · intro text head
    obtain ⟨text, rfl⟩ := List.head?_eq_some_iff.mp head
    rfl
  · intro text head
    unfold longBasicPiece?
    split
    · exact absurd rfl head
    · rfl

/-! The ends of strings, and strings as a whole. -/

theorem local_shortEnd? (quote : Char) : Local (shortEnd? quote) := by
  intro text a rest old h
  cases text with
  | nil => contradiction
  | cons c text =>
      rw [shortEnd?] at h
      split at h
      · rename_i same
        simp only [Option.some.injEq, Prod.mk.injEq] at h
        obtain ⟨rfl, rfl⟩ := h
        exact ⟨c :: rest, rfl, fun new => if_pos same⟩
      · contradiction

section Ends

variable {quote : Char} (other : quote ≠ '\n')
include other

theorem decided_shortEnd? : Decided (shortEnd? quote) := by
  intro front old h new
  cases front with
  | nil => exact if_neg other.symm
  | cons c front =>
      rw [List.cons_append, shortEnd?] at h ⊢
      split at h
      · contradiction
      · rename_i different
        exact if_neg different

theorem longEnd?_newline (front behind : List Char) :
    longEnd? quote (front ++ '\n' :: behind) =
      (longEnd? quote front).map fun (own, rest) => (own, rest ++ '\n' :: behind) := by
  have run := takeWhile_newline (p := (· == quote)) (by simpa using other.symm) front behind
  have short := (List.takeWhile_prefix (p := (· == quote)) (l := front)).length_le
  simp only [longEnd?, run]
  split
  · rfl
  · rw [List.drop_append_of_le_length (by omega)]
    rfl

theorem local_longEnd? : Local (longEnd? quote) := by
  refine local_of_newline ?_ (longEnd?_newline other)
  intro text a rest h
  simp only [longEnd?] at h
  obtain ⟨-, h⟩ := Option.ite_none_left_eq_some.mp h
  exact (Prod.mk.inj (Option.some.inj h)).2 ▸ List.drop_suffix _ _

theorem decided_longEnd? : Decided (longEnd? quote) := by
  intro front old h new
  rw [longEnd?_newline other, Option.map_eq_none_iff] at h ⊢
  exact h

end Ends

theorem local_body? {end? piece? : Reader (List Char)} (ends : Local end?)
    (decided : Decided end?) (pieces : Local piece?) : Local (body? end? piece?) := by
  intro text a rest old h
  fun_induction body? end? piece? text generalizing a with
  | case1 text last found =>
      obtain ⟨front, rfl, swap⟩ := ends (found.trans h)
      exact ⟨front, rfl, fun new => by rw [body?, swap]⟩
  | case2 => contradiction
  | case3 text notEnded piece left taken shorter ih =>
      obtain ⟨⟨inner, _⟩, found, same⟩ := Option.map_eq_some_iff.mp h
      simp only [Prod.mk.injEq] at same
      obtain ⟨rfl, rfl⟩ := same
      obtain ⟨middle, rfl, swapRest⟩ := ih found
      obtain ⟨front, rfl, swapPiece⟩ := pieces taken
      refine ⟨front, rfl, fun new => ?_⟩
      rw [length_newline_lt_iff] at shorter
      simp only [body?, decided notEnded, swapPiece, swapRest,
        if_pos ((length_newline_lt_iff new).mpr shorter), Option.map_some]
  | case4 => contradiction

theorem skips_dropNewline : Skips dropNewline := by
  intro text rest old h
  rw [dropNewline] at h
  cases ended : newline? text with
  | some left =>
      rw [ended] at h
      obtain rfl : left = _ := h
      obtain ⟨front, rfl, swap⟩ := skipsSome_newline? ended
      exact ⟨front, rfl, fun new => by rw [dropNewline, swap, Option.getD_some]⟩
  | none =>
      rw [ended] at h
      obtain rfl : text = _ := h
      exact ⟨rest, rfl, fun new => by rw [dropNewline, decided_newline? ended, Option.getD_none]⟩

theorem local_short? : Local short? := by
  intro text a rest old h
  unfold short? at h
  split at h
  · obtain ⟨front, rfl, swap⟩ := local_body? (local_shortEnd? _)
      (decided_shortEnd? (by decide)) local_basicPiece? h
    exact ⟨'"' :: front, rfl, swap⟩
  · obtain ⟨front, rfl, swap⟩ := local_body? (local_shortEnd? _)
      (decided_shortEnd? (by decide)) local_plain? h
    exact ⟨'\'' :: front, rfl, swap⟩
  · contradiction

/-- Three quotes in a row stand on one line. -/
theorem take_newline_iff {quotes : List Char} (free : '\n' ∉ quotes) (front behind : List Char) :
    (front ++ '\n' :: behind).take quotes.length = quotes ↔
      front.take quotes.length = quotes := by
  rcases Nat.lt_or_ge front.length quotes.length with short | fits
  · constructor
    · intro h
      refine absurd (List.mem_of_getElem? (i := front.length) ?_) free
      rw [← h, List.getElem?_take_of_lt short, List.getElem?_append_right (Nat.le_refl _),
        Nat.sub_self, List.getElem?_cons_zero]
    · intro h
      have := congrArg List.length h
      rw [List.length_take] at this
      omega
  · rw [List.take_append_of_le_length fits]

theorem read?_of_take {text : List Char} (basic : text.take 3 ≠ ['"', '"', '"'])
    (literal : text.take 3 ≠ ['\'', '\'', '\'']) : Quoted.read? text = short? text := by
  unfold Quoted.read?
  split
  · simp at basic
  · simp at literal
  · rfl

theorem exists_of_take {text : List Char} {c d e : Char} (h : text.take 3 = [c, d, e]) :
    ∃ rest, text = c :: d :: e :: rest :=
  ⟨text.drop 3, by rw [← List.take_append_drop 3 text, h, List.drop_append_of_le_length] <;> simp⟩

theorem local_read? : Local Quoted.read? := by
  intro text a rest old h
  by_cases basic : text.take 3 = ['"', '"', '"']
  · obtain ⟨text, rfl⟩ := exists_of_take basic
    obtain ⟨middle, shape, swap⟩ := local_body? (local_longEnd? (by decide))
      (decided_longEnd? (by decide)) local_longBasicPiece? h
    obtain ⟨front, rfl, swapLine⟩ := skips_dropNewline shape
    refine ⟨'"' :: '"' :: '"' :: front, rfl, fun new => ?_⟩
    exact (congrArg _ (swapLine new)).trans (swap new)
  by_cases literal : text.take 3 = ['\'', '\'', '\'']
  · obtain ⟨text, rfl⟩ := exists_of_take literal
    obtain ⟨middle, shape, swap⟩ := local_body? (local_longEnd? (by decide))
      (decided_longEnd? (by decide)) local_longLiteralPiece? h
    obtain ⟨front, rfl, swapLine⟩ := skips_dropNewline shape
    refine ⟨'\'' :: '\'' :: '\'' :: front, rfl, fun new => ?_⟩
    exact (congrArg _ (swapLine new)).trans (swap new)
  · rw [read?_of_take basic literal] at h
    obtain ⟨front, rfl, swap⟩ := local_short? h
    have free : '\n' ∉ ['"', '"', '"'] ∧ '\n' ∉ ['\'', '\'', '\''] := by decide
    refine ⟨front, rfl, fun new => ?_⟩
    rw [read?_of_take, swap]
    · exact fun quotes => basic
        ((take_newline_iff free.1 front old).mpr ((take_newline_iff free.1 front new).mp quotes))
    · exact fun quotes => literal
        ((take_newline_iff free.2 front old).mpr ((take_newline_iff free.2 front new).mp quotes))

end Quoted

/-! Keys. -/

namespace Key

theorem local_bare? : Local fun text =>
    if (text.takeWhile isBare).isEmpty then none
    else some (String.ofList (text.takeWhile isBare), text.dropWhile isBare) := by
  intro text a rest old h
  obtain ⟨nonempty, h⟩ := Option.ite_none_left_eq_some.mp h
  obtain ⟨rfl, left⟩ := Prod.mk.inj (Option.some.inj h)
  obtain ⟨front, rfl, rfl⟩ := exists_of_dropWhile (by decide) left
  have stops : isBare '\n' = false := by decide
  rw [takeWhile_newline stops] at nonempty ⊢
  refine ⟨front, rfl, fun new => ?_⟩
  simp only [takeWhile_newline stops, dropWhile_newline stops]
  exact if_neg nonempty

theorem local_part? : Local part? := by
  refine .ofHead (fun head => head = some '"' ∨ head = some '\'')
    (Quoted.local_short?.map String.ofList) local_bare? ?_ ?_
  · rintro text (head | head)
    all_goals
      obtain ⟨text, rfl⟩ := List.head?_eq_some_iff.mp head
      rfl
  · intro text head
    unfold part?
    split
    · exact absurd (.inl rfl) head
    · exact absurd (.inr rfl) head
    · rfl

variable {text rest more : List Char} {part : String}

theorem parts?_dot (first : part? (skipGap text) = some (part, rest))
    (dot : skipGap rest = '.' :: more) (shorter : more.length < text.length) :
    parts? text = (parts? more).map fun (parts, rest) => (part :: parts, rest) := by
  rw [parts?, first]
  simp only [dot, if_pos shorter]

theorem parts?_last (first : part? (skipGap text) = some (part, rest))
    (last : (skipGap rest).head? ≠ some '.') : parts? text = some ([part], skipGap rest) := by
  rw [parts?, first]
  simp only
  split
  · rename_i dot
    exact absurd (congrArg List.head? dot) last
  · rfl

theorem local_parts? : Local parts? := by
  intro text a rest old h
  fun_induction parts? text generalizing a with
  | case1 => contradiction
  | case2 text part left first more dot shorter ih =>
      obtain ⟨⟨parts, _⟩, found, same⟩ := Option.map_eq_some_iff.mp h
      obtain ⟨rfl, rfl⟩ := Prod.mk.inj same
      obtain ⟨inner, rfl, swapMore⟩ := ih found
      have shape : skipGap left = ('.' :: inner) ++ '\n' :: old := dot
      obtain ⟨middle, rfl, swapGap⟩ := skips_skipGap shape
      obtain ⟨front, rfl, swapPart⟩ := local_part?.after skips_skipGap first
      refine ⟨front, rfl, fun new => ?_⟩
      rw [length_newline_lt_iff] at shorter
      have dot : skipGap (middle ++ '\n' :: new) = '.' :: (inner ++ '\n' :: new) := swapGap new
      rw [parts?_dot (swapPart new) dot ((length_newline_lt_iff new).mpr shorter), swapMore,
        Option.map_some]
  | case3 => contradiction
  | case4 text part left first other =>
      obtain ⟨rfl, behind⟩ := Prod.mk.inj (Option.some.inj h)
      obtain ⟨middle, rfl, swapGap⟩ := skips_skipGap behind
      obtain ⟨front, rfl, swapPart⟩ := local_part?.after skips_skipGap first
      have last (new : List Char) : (skipGap (middle ++ '\n' :: new)).head? ≠ some '.' := by
        rw [swapGap, head?_newline rest new old, ← behind]
        intro dot
        obtain ⟨tail, dot⟩ := List.head?_eq_some_iff.mp dot
        exact other tail dot
      refine ⟨front, rfl, fun new => ?_⟩
      rw [parts?_last (swapPart new) (last new), swapGap]

theorem local_read? : Local Key.read? := by
  have checked (parts : List String) :
      Local fun rest => if parts.length ≤ maxDepth then some (parts, rest) else none := by
    by_cases few : parts.length ≤ maxDepth
    · simp only [if_pos few]
      exact local_pure parts
    · simp only [if_neg few]
      exact local_none
  exact local_parts?.bind checked

end Key

end Dimensional.Toml
