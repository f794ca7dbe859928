import Dimensional.Proofs.Units.Walk
import Mathlib.Data.List.DropRight

/-!
Reading with a cursor comes to what the readers come to: every walk retraces its reader, so that a
unit read from its first byte on has the answer of `Registry.parse`.
-/

namespace Dimensional

namespace Units

open Text Grammar

namespace Reader

/-- What an exponent in parentheses is made of. -/
def fraction : Reader (Int × Nat) := fun text => do
  let n ← signed (trimStart text)
  let d ← denominator n.2
  return ((n.1, d.1), d.2)

theorem exponent_of_open {text rest : List Char} (start : trimStart text = '(' :: rest) :
    exponent text = do
      let found ← fraction rest
      let rest ← close .closingExponent found.2
      if found.1.2 = 0 then fault .zeroDenominator rest
      else return (mkRat found.1.1 found.1.2, rest) := by
  rw [exponent, start, fraction]
  simp only [bind_assoc, pure_bind]

theorem exponent_of_not_open {text : List Char} (other : (trimStart text).head? ≠ some '(') :
    exponent text = do
      let n ← signed (trimStart text)
      return ((n.1 : Rat), n.2) := by
  unfold exponent
  split
  case h_1 start => exact absurd (by rw [start]; rfl) other
  case h_2 => rfl

/-- An expression is all there is, white space behind it aside. -/
def atEnd (found : Measure × List Char) : Except Fault (Measure × List Char) :=
  match trimStart found.2 with
  | [] => .ok (found.1, [])
  | c :: rest => fault (.unexpected c) (c :: rest)

theorem read_of_not_blank {registry : Registry} {text : List Char}
    (notBlank : text.all isBlank = false) :
    registry.read text =
      (expression (factor registry Registry.maxDepth) text >>= atEnd).map Prod.fst := by
  rw [Registry.read, if_neg (by simp [notBlank])]
  cases expression (factor registry Registry.maxDepth) text with
  | error fault => rfl
  | ok found =>
      obtain ⟨m, rest⟩ := found
      simp only [ok_bind, atEnd]
      cases trimStart rest <;> rfl

theorem factorWith_trimStart (registry : Registry) (inner : Option (Reader Measure))
    (text : List Char) :
    factorWith registry inner (trimStart text) = factorWith registry inner text := by
  simp only [factorWith, trimStart, List.dropWhile_idempotent]

end Reader

namespace Walk

variable {unit : String} {cursor after : Cursor} {text part rest : List Char} {α β : Type}

/-! Below factors. -/

theorem retraces_pure (a : α) (gap : Blanks) :
    Retraces unit cursor text (pure a) (.ok (a, gap.text ++ text)) :=
  .done gap (List.nil_append text).symm rfl rfl rfl

theorem retraces_throw {fault : Fault} {failure : Failure} (same : fault.failure unit = failure)
    (shallow : fault.cause ≠ .nestedTooDeeply) :
    Retraces unit cursor text (throw failure : Walk α) (.error fault) :=
  .refused [] cursor.depth rfl (by rw [same]; rfl) fun deep => absurd deep shallow

theorem retraces_refuseMissing (wanted : Wanted) (faces : cursor.Faces unit text) :
    Retraces unit cursor text (refuseMissing unit wanted cursor.offset : Walk α)
      (missing wanted text) := by
  refine Retraces.look (run_peek faces) ?_
  cases text with
  | nil => exact retraces_throw rfl (by rintro ⟨⟩)
  | cons c text =>
      refine retraces_throw ?_ (by rintro ⟨⟩)
      rw [Fault.failure, faces.offsetOf_eq]

theorem retraces_inRange (result : Option Measure) (gap : Blanks) :
    Retraces unit cursor text (inRange unit result)
      (Reader.inRange result (gap.text ++ text)) := by
  cases result with
  | none => exact retraces_throw rfl (by rintro ⟨⟩)
  | some m => exact retraces_pure m gap

theorem retraces_unsigned (faces : cursor.Faces unit text) :
    Retraces unit cursor text (unsignedInteger unit) (Reader.unsigned text) := by
  refine Retraces.look (run_offset cursor) ?_
  refine Retraces.take faces (by decide) (by decide) ?_
  rw [Reader.unsigned]
  by_cases empty : (text.takeWhile Char.isDigit).isEmpty = true
  · have none : text.takeWhile Char.isDigit = [] := List.isEmpty_iff.mp empty
    have same : text.dropWhile Char.isDigit = text := by
      simpa [none] using List.takeWhile_append_dropWhile (p := Char.isDigit) (l := text)
    rw [if_pos empty, if_pos empty, none, same]
    exact retraces_refuseMissing .exponent faces
  · rw [if_neg empty, if_neg empty]
    split
    · exact retraces_pure _ noBlanks
    · exact retraces_throw rfl (by rintro ⟨⟩)

theorem run_isNegative_minus (faces : cursor.Faces unit ('-' :: text)) :
    isNegative unit cursor = some (.ok true, cursor.behind ['-']) := by
  rw [isNegative, bind_ok (run_peek faces), List.head?_cons, if_pos rfl, bind_ok (run_bump faces)]
  rfl

theorem run_isNegative_plus (faces : cursor.Faces unit ('+' :: text)) :
    isNegative unit cursor = some (.ok false, cursor.behind ['+']) := by
  rw [isNegative, bind_ok (run_peek faces), List.head?_cons, if_neg (by decide), if_pos rfl,
    bind_ok (run_bump faces)]
  rfl

theorem run_isNegative_of_ne (faces : cursor.Faces unit text) (minus : text.head? ≠ some '-')
    (plus : text.head? ≠ some '+') : isNegative unit cursor = some (.ok false, cursor) := by
  rw [isNegative, bind_ok (run_peek faces), if_neg minus, if_neg plus]
  rfl

theorem retraces_signed (faces : cursor.Faces unit text) :
    Retraces unit cursor text (signedInteger unit) (Reader.signed text) := by
  unfold Reader.signed
  split
  case h_1 rest =>
    refine Retraces.behind (run_isNegative_minus faces) rfl ?_
    exact Retraces.bind faces.behind_cons (retraces_unsigned faces.behind_cons)
      fun gap _ _ => retraces_pure _ gap
  case h_2 rest =>
    refine Retraces.behind (run_isNegative_plus faces) rfl ?_
    exact Retraces.bind faces.behind_cons (retraces_unsigned faces.behind_cons)
      fun gap _ _ => retraces_pure _ gap
  case h_3 minus plus =>
    have run := run_isNegative_of_ne faces (head?_ne_of_forall minus) (head?_ne_of_forall plus)
    refine Retraces.look run ?_
    exact Retraces.bind faces (retraces_unsigned faces) fun gap _ _ => retraces_pure _ gap

theorem retraces_denominator (gap : Blanks) (faces : cursor.Faces unit text) :
    Retraces unit cursor text (denominator unit) (Reader.denominator (gap.text ++ text)) := by
  rw [Reader.denominator, trimStart_append]
  split
  case h_1 rest start =>
    refine Retraces.mark faces start rfl fun faces _ => ?_
    exact Retraces.skip faces fun faces _ => retraces_unsigned faces
  case h_2 other =>
    exact Retraces.noMark faces other fun _ _ => retraces_pure 1 noBlanks

/-! What stands in parentheses, and the closing one. -/

section Parentheses

variable (wanted : Wanted)

theorem run_expect (faces : cursor.Faces unit text) (start : trimStart text = ')' :: rest) :
    expect unit ')' wanted cursor =
      some (.ok (), cursor.behind (text.takeWhile isBlank ++ [')'])) := by
  have behind := faces.behind_blanks
  rw [start] at behind
  rw [expect, bind_ok (run_skipBlanks faces), bind_ok (run_peek behind), List.head?_cons,
    if_pos rfl, run_bump behind, Cursor.behind_behind]

theorem retraces_expect_missing (faces : cursor.Faces unit text)
    (other : ∀ rest, trimStart text = ')' :: rest → False) :
    Retraces unit cursor text (expect unit ')' wanted) (missing wanted (trimStart text)) := by
  refine Retraces.skip faces fun faces _ => ?_
  refine Retraces.look (run_peek faces) ?_
  rw [if_neg (head?_ne_of_forall other)]
  refine Retraces.look (run_offset _) ?_
  exact retraces_refuseMissing wanted faces

variable {wanted}

/-- What has been opened is closed, or the closing parenthesis is missed. -/
theorem Retraces.closing {walk next : Walk β} {further : List Char → Except Fault (β × List Char)}
    (gap : Blanks) (faces : cursor.Faces unit ('(' :: part ++ rest)) (matched : Matched part)
    (reached : walk cursor =
      (expect unit ')' wanted >>= fun _ => next) (cursor.behind ('(' :: part)))
    (onward : ∀ {after : Cursor} {rest : List Char}, after.Faces unit rest →
      after.depth = cursor.depth → Retraces unit after rest next (further rest)) :
    Retraces unit cursor ('(' :: part ++ rest) walk
      (Reader.close wanted (gap.text ++ rest) >>= further) := by
  have inside : (cursor.behind ('(' :: part)).Faces unit rest := faces.behind
  rw [Reader.close, trimStart_append]
  split
  case h_1 rest' start =>
    have split : '(' :: part ++ rest =
        ('(' :: part ++ (rest.takeWhile isBlank ++ [')'])) ++ rest' := by
      have closes : rest.takeWhile isBlank ++ ')' :: rest' = rest := by
        rw [← start]
        exact List.takeWhile_append_dropWhile
      simp [closes]
    have run : walk cursor =
        next (cursor.behind ('(' :: part ++ (rest.takeWhile isBlank ++ [')']))) := by
      rw [reached, bind_ok (run_expect wanted inside start), Cursor.behind_behind]
    have blanks : Matched (rest.takeWhile isBlank) :=
      matched_takeWhile (by decide) (by decide) rest
    rw [split] at faces ⊢
    exact Retraces.onward run (matched.enclosed blanks) (onward faces.behind rfl)
  case h_2 other =>
    have lacks := retraces_expect_missing wanted inside other
    generalize trimStart rest = ahead at lacks ⊢
    cases ahead with
    | nil => exact Retraces.refusal reached matched.count_opened lacks.fails
    | cons c tail => exact Retraces.refusal reached matched.count_opened lacks.fails

/-- Behind an opening parenthesis a walk takes what stands inside, where the depth may be counted
up, and then goes on at the closing one with the depth that it had. -/
theorem Retraces.parenthesised {inside : Walk α} {walk : Walk β} (next : α → Walk β)
    {read : Except Fault (α × List Char)}
    {further : α × List Char → List Char → Except Fault (β × List Char)} {depth : Nat}
    (faces : cursor.Faces unit ('(' :: text)) (deeper : depth ≤ cursor.depth + 1)
    (first : Retraces unit ⟨cursor.offset + byteSize ['('], depth⟩ text inside read)
    (succeeds : ∀ {a : α} {offset : Nat},
      inside ⟨cursor.offset + byteSize ['('], depth⟩ = some (.ok a, ⟨offset, depth⟩) →
        walk cursor = (expect unit ')' wanted >>= fun _ => next a) ⟨offset, cursor.depth⟩)
    (fails : ∀ {failure : Failure} {after : Cursor},
      inside ⟨cursor.offset + byteSize ['('], depth⟩ = some (.error failure, after) →
        walk cursor = some (.error failure, after))
    (onward : ∀ (found : α × List Char) {after : Cursor} {rest : List Char},
      after.Faces unit rest → after.depth = cursor.depth →
        Retraces unit after rest (next found.1) (further found rest)) :
    Retraces unit cursor ('(' :: text) walk (do
      let found ← read
      let rest ← Reader.close wanted found.2
      further found rest) := by
  have place : ∀ part, cursor.offset + byteSize ['('] + byteSize part =
      cursor.offset + byteSize ('(' :: part) := by
    intro part
    rw [Nat.add_assoc, ← byteSize_append, List.singleton_append]
  cases first with
  | refused part depth' split run crowded =>
      refine .refused ('(' :: part) depth' (by rw [split]; rfl) ?_ ?_
      · rw [fails run, place]
      · intro deep
        obtain ⟨opens, many⟩ := crowded deep
        -- The depth inside counts the parenthesis that is opened here.
        change Registry.maxDepth + part.count ')' ≤ depth + part.count '(' at many
        refine ⟨opens, ?_⟩
        rw [List.count_cons_self, List.count_cons_of_ne (by decide)]
        omega
  | @done a part rest _ gap split left matched run =>
      subst split left
      refine Retraces.closing gap faces matched ?_ (onward (a, gap.text ++ rest))
      rw [succeeds run, Cursor.behind, place]

end Parentheses

/-! Exponents, and what may be raised to them. -/

theorem retraces_fraction (faces : cursor.Faces unit text) :
    Retraces unit cursor text (fraction unit) (Reader.fraction text) := by
  refine Retraces.skip faces fun faces _ => ?_
  refine Retraces.bind faces (retraces_signed faces) fun gap faces _ => ?_
  refine Retraces.bind faces (retraces_denominator gap faces) fun gap _ _ => ?_
  exact retraces_pure _ gap

theorem retraces_exponent (faces : cursor.Faces unit text) :
    Retraces unit cursor text (exponent unit) (Reader.exponent text) := by
  refine Retraces.skip faces fun faces _ => ?_
  refine Retraces.look (run_peek faces) ?_
  by_cases opens : (trimStart text).head? = some '('
  · obtain ⟨rest, start⟩ := List.head?_eq_some_iff.mp opens
    rw [Reader.exponent_of_open start, if_pos opens]
    rw [start] at faces ⊢
    refine Retraces.parenthesised
      (fun e => if e.2 = 0 then refuse unit .zeroDenominator else return mkRat e.1 e.2)
      faces (Nat.le_succ _) (retraces_fraction faces.behind_cons)
      (fun run => ?_) (fun run => ?_) fun found _ _ _ _ => ?_
    · rw [bind_ok (run_bump faces)]
      exact bind_ok run
    · rw [bind_ok (run_bump faces)]
      exact bind_error run
    · split
      · exact retraces_throw rfl (by rintro ⟨⟩)
      · exact retraces_pure _ noBlanks
  · rw [Reader.exponent_of_not_open opens, if_neg opens]
    exact Retraces.bind faces (retraces_signed faces) fun gap _ _ => retraces_pure _ gap

theorem retraces_powered (m : Measure) (gap : Blanks) (faces : cursor.Faces unit text) :
    Retraces unit cursor text (powered unit m) (Reader.powered m (gap.text ++ text)) := by
  rw [Reader.powered, trimStart_append]
  split
  case h_1 rest start =>
    refine Retraces.look (run_offset cursor) ?_
    refine Retraces.mark faces start rfl fun faces _ => ?_
    exact Retraces.bind faces (retraces_exponent faces) fun gap _ _ => retraces_inRange _ gap
  case h_2 other =>
    -- Nothing is taken: the white space that was looked through lies ahead again.
    refine .done gap (List.nil_append text).symm rfl rfl ?_
    rw [powered, bind_ok (run_offset cursor), bind_ok (run_skipBlanks faces),
      bind_ok (run_peek faces.behind_blanks), if_neg (head?_ne_of_forall other)]
    rfl

theorem retraces_symbolPowered (m : Measure) (faces : cursor.Faces unit text) :
    Retraces unit cursor text (symbolPowered unit m) (Reader.symbolPowered m text) := by
  refine Retraces.look (run_peek faces) ?_
  cases text with
  | nil => exact retraces_powered m noBlanks faces
  | cons c text =>
      rw [Reader.symbolPowered, List.head?_cons, Option.any_some]
      split
      · exact Retraces.bind faces (retraces_unsigned faces) fun gap _ _ => retraces_inRange _ gap
      · exact retraces_powered m noBlanks faces

theorem retraces_number (faces : cursor.Faces unit text) :
    Retraces unit cursor text (number unit) (Reader.number text) := by
  refine Retraces.look (run_offset cursor) ?_
  refine Retraces.take faces (by decide) (by decide) ?_
  rw [Reader.number]
  by_cases one : text.takeWhile Char.isDigit = ['1']
  · rw [if_pos one, if_pos one]
    exact retraces_powered .one noBlanks (faces.behind_takeWhile Char.isDigit)
  · rw [if_neg one, if_neg one]
    refine retraces_throw ?_ (by rintro ⟨⟩)
    rw [Fault.failure, faces.offsetOf_eq]

theorem retraces_symbol (registry : Registry) (faces : cursor.Faces unit text) :
    Retraces unit cursor text (symbol unit registry) (Reader.symbol registry text) := by
  refine Retraces.take faces (by decide) (by decide) ?_
  rw [Reader.symbol]
  cases registry.resolve (String.ofList (text.takeWhile isAlphabetic)) with
  | none => exact retraces_throw rfl (by rintro ⟨⟩)
  | some m => exact retraces_symbolPowered m (faces.behind_takeWhile isAlphabetic)

/-! Factors. -/

/-- What may be done about an opening parenthesis: nothing, or reading what is inside. -/
inductive MayOpen (unit : String) (depth : Nat) (inside : Walk Measure) :
    Option (Reader Measure) → Prop
  | crowded (deep : Registry.maxDepth ≤ depth) : MayOpen unit depth inside none
  | opens {read : Reader Measure} (room : depth < Registry.maxDepth)
      (retraces : ∀ {cursor : Cursor} {text : List Char}, cursor.Faces unit text →
        cursor.depth = depth + 1 → Retraces unit cursor text inside (read text)) :
      MayOpen unit depth inside (some read)

theorem run_enter (cursor : Cursor) :
    enter cursor = some (.ok (), ⟨cursor.offset, cursor.depth + 1⟩) := rfl

theorem run_leave (offset depth : Nat) :
    leave ⟨offset, depth + 1⟩ = some (.ok (), ⟨offset, depth⟩) := rfl

theorem run_parenthesised (inside : Walk Measure) (room : cursor.depth < Registry.maxDepth)
    (faces : cursor.Faces unit ('(' :: text)) :
    parenthesised unit inside cursor = (do
      let m ← inside
      leave
      expect unit ')' .closing
      powered unit m) ⟨cursor.offset + byteSize ['('], cursor.depth + 1⟩ := by
  have look : (get : Walk Cursor) cursor = some (.ok cursor, cursor) := rfl
  rw [parenthesised, bind_ok look, if_neg (Nat.not_le.mpr room), bind_ok (run_bump faces),
    bind_ok (run_enter _)]
  rfl

theorem retraces_parenthesised (registry : Registry) {inside : Walk Measure}
    {inner : Option (Reader Measure)} (mayOpen : MayOpen unit cursor.depth inside inner)
    (faces : cursor.Faces unit ('(' :: text)) :
    Retraces unit cursor ('(' :: text) (parenthesised unit inside)
      (Reader.factorWith registry inner ('(' :: text)) := by
  cases mayOpen with
  | crowded deep =>
      refine .refused [] cursor.depth rfl ?_ fun _ => ⟨rfl, Nat.add_le_add_right deep 0⟩
      have look : (get : Walk Cursor) cursor = some (.ok cursor, cursor) := rfl
      rw [parenthesised, bind_ok look, if_pos deep]
      rfl
  | @opens read room retraces =>
      have first : Retraces unit ⟨cursor.offset + byteSize ['('], cursor.depth + 1⟩ text inside
          (read text) := retraces faces.behind_cons.deeper rfl
      refine Retraces.parenthesised (powered unit) faces (Nat.le_refl _) first
        (fun run => ?_) (fun run => ?_) fun found _ _ faces _ => ?_
      · rw [run_parenthesised inside room faces, bind_ok run, bind_ok (run_leave _ _)]
      · rw [run_parenthesised inside room faces, bind_error run]
      · exact retraces_powered found.1 noBlanks faces

theorem retraces_factorWith (registry : Registry) {inside : Walk Measure}
    {inner : Option (Reader Measure)} (mayOpen : MayOpen unit cursor.depth inside inner)
    (faces : cursor.Faces unit text) :
    Retraces unit cursor text (factorWith unit registry inside)
      (Reader.factorWith registry inner text) := by
  refine Retraces.skip faces fun faces depth => ?_
  rw [← depth] at mayOpen
  rw [← Reader.factorWith_trimStart]
  refine Retraces.look (run_peek faces) ?_
  cases start : trimStart text with
  | nil =>
      rw [start] at faces
      refine Retraces.look (run_offset _) ?_
      exact retraces_refuseMissing .factor faces
  | cons c rest =>
      rw [start] at faces
      by_cases opens : c = '('
      · subst opens
        exact retraces_parenthesised registry mayOpen faces
      have other : (c :: rest).head? ≠ some '(' := by simpa using opens
      rw [← start, Reader.factorWith_trimStart, Reader.factorWith, start, if_neg other]
      simp only [if_neg opens]
      by_cases digit : c.isDigit = true
      · rw [if_pos (show (c :: rest).head?.any Char.isDigit = true from digit), if_pos digit]
        exact retraces_number faces
      rw [if_neg (show ¬ (c :: rest).head?.any Char.isDigit = true from digit), if_neg digit]
      by_cases letter : isAlphabetic c = true
      · rw [if_pos (show (c :: rest).head?.any isAlphabetic = true from letter), if_pos letter]
        exact retraces_symbol registry faces
      rw [if_neg (show ¬ (c :: rest).head?.any isAlphabetic = true from letter), if_neg letter]
      refine Retraces.look (run_offset _) ?_
      exact retraces_refuseMissing .factor faces

/-! Groups and expressions: each round of a loop takes what a step takes. -/

/-- What a step of a loop has found, apart from the place that it has come to. -/
def roundOf (text : List Char) (step : Except Fault (Option (Measure × List Char))) :
    Except Fault (Option Measure × List Char) :=
  step.map fun found => (found.map Prod.fst, found.elim text Prod.snd)

theorem retraces_loop {round : Measure → Walk (Option Measure)}
    {step : Measure → List Char → Except Fault (Option (Measure × List Char))} {depth : Nat}
    (shorter : ∀ {a b : Measure} {text rest : List Char},
      step a text = .ok (some (b, rest)) → rest.length < text.length)
    (rounds : ∀ {a : Measure} {cursor : Cursor} {text : List Char} (gap : Blanks),
      cursor.Faces unit text → cursor.depth = depth →
        Retraces unit cursor text (round a)
          (roundOf (gap.text ++ text) (step a (gap.text ++ text))))
    (a : Measure) (whole : List Char) {cursor : Cursor} {text : List Char} (gap : Blanks)
    (shape : whole = gap.text ++ text) (faces : cursor.Faces unit text)
    (level : cursor.depth = depth) :
    Retraces unit cursor text (loop round a) (Reader.repeated step a whole) := by
  have first : Retraces unit cursor text (round a) (roundOf whole (step a whole)) :=
    shape ▸ rounds gap faces level
  -- By induction on the rounds of the reader, whose text is that of the walk with the white space
  -- still in front that the walk has passed.
  induction a, whole using Reader.repeated.induct step generalizing cursor text gap with
  | case1 a whole fault found =>
      rw [Reader.repeated, found]
      rw [found] at first
      cases first with
      | refused part depth split run crowded =>
          exact .refused part depth split (loop_of_error run) crowded
  | case2 a whole found =>
      rw [Reader.repeated_of_none found]
      rw [found] at first
      cases first with
      | done gap' split left matched run =>
          exact .done gap' split left matched (loop_of_none run)
  | case3 a whole next rest found less ih =>
      rw [Reader.repeated_of_some found less]
      rw [found] at first
      cases first with
      | done gap' split left matched run =>
          subst split
          refine Retraces.onward (loop_of_some run) matched ?_
          have place : rest = gap'.text ++ _ := left
          exact ih gap' place faces.behind level (place ▸ rounds gap' faces.behind level)
  | case4 a whole next rest found stuck => exact absurd (shorter found) stuck

section Rounds

variable {registry : Registry} {depth : Nat} {read : Reader Measure} {walk : Walk Measure}

/-- What a round takes behind its operator, and the result joined to what there was before. -/
def joined (unit : String) (taken : Walk Measure) (combine : Measure → Option Measure) :
    Walk (Option Measure) := do
  let m ← taken
  return some (← inRange unit (combine m))

theorem roundOf_joined (whole : List Char) (taken : Except Fault (Measure × List Char))
    (combine : Measure → Option Measure) :
    roundOf whole (do
        let m ← taken
        return some (← Reader.inRange (combine m.1) m.2)) = do
      let m ← taken
      let joined ← Reader.inRange (combine m.1) m.2
      return (some joined.1, joined.2) := by
  cases taken with
  | error fault => rfl
  | ok m =>
      rw [Reader.ok_bind, Reader.ok_bind]
      cases combine m.1 <;> rfl

theorem retraces_joined {taken : Except Fault (Measure × List Char)} (whole : List Char)
    (combine : Measure → Option Measure) (faces : cursor.Faces unit text)
    (first : Retraces unit cursor text walk taken) :
    Retraces unit cursor text (joined unit walk combine)
      (roundOf whole (do
        let m ← taken
        return some (← Reader.inRange (combine m.1) m.2))) := by
  rw [roundOf_joined]
  refine Retraces.bind faces first fun gap faces _ => ?_
  exact Retraces.bind faces (retraces_inRange _ gap) fun gap _ _ => retraces_pure _ gap

theorem retraces_noRound (gap : Blanks) :
    Retraces unit cursor (trimStart text) (pure none) (roundOf (gap.text ++ text) (.ok none)) := by
  obtain ⟨blanks, split⟩ := exists_blanks text
  have place : gap.text ++ text = (gap.append blanks).text ++ trimStart text := by
    rw [Run.text_append, List.append_assoc, ← split]
  rw [place]
  exact retraces_pure none (gap.append blanks)

/-- Factors at one depth are taken as a reader takes them, within the room that is left there. -/
structure RetracesFactors (unit : String) (registry : Registry) (depth : Nat)
    (walk : Walk Measure) (read : Reader Measure) : Prop where
  reads : Reader.ReadsFactors registry (Registry.maxDepth - depth) read
  retraces : ∀ {cursor : Cursor} {text : List Char}, cursor.Faces unit text →
    cursor.depth = depth → Retraces unit cursor text walk (read text)

theorem retraces_hyphenRound (factors : RetracesFactors unit registry depth walk read)
    (a : Measure) (gap : Blanks) (faces : cursor.Faces unit text) (level : cursor.depth = depth) :
    Retraces unit cursor text (hyphenRound unit walk a)
      (roundOf (gap.text ++ text) (Reader.hyphenStep read a (gap.text ++ text))) := by
  rw [Reader.hyphenStep, trimStart_append]
  split
  case h_1 rest start =>
    refine Retraces.mark faces start rfl fun faces level' => ?_
    exact retraces_joined _ a.mul? faces (factors.retraces faces (level'.trans level))
  case h_2 other => exact Retraces.noMark faces other fun _ _ => retraces_noRound gap

theorem retraces_groupLoop (factors : RetracesFactors unit registry depth walk read)
    (a : Measure) (gap : Blanks) (faces : cursor.Faces unit text) (level : cursor.depth = depth) :
    Retraces unit cursor text (loop (hyphenRound unit walk) a)
      (Reader.repeated (Reader.hyphenStep read) a (gap.text ++ text)) := by
  refine retraces_loop ?_ (retraces_hyphenRound factors _) a _ gap rfl faces level
  intro a b text rest step
  obtain ⟨gap, right, c, rfl, -⟩ := Reader.factor_of_hyphenStep factors.reads step
  simp only [List.length_append, List.length_cons]
  omega

theorem retraces_group (factors : RetracesFactors unit registry depth walk read)
    (faces : cursor.Faces unit text) (level : cursor.depth = depth) :
    Retraces unit cursor text (groupWith unit walk) (Reader.group read text) :=
  Retraces.bind faces (factors.retraces faces level) fun gap faces level' =>
    retraces_groupLoop factors _ gap faces (level'.trans level)

theorem retraces_productRound (factors : RetracesFactors unit registry depth walk read)
    (a : Measure) (gap : Blanks) (faces : cursor.Faces unit text) (level : cursor.depth = depth) :
    Retraces unit cursor text (productRound unit walk a)
      (roundOf (gap.text ++ text) (Reader.productStep read a (gap.text ++ text))) := by
  rw [Reader.productStep, trimStart_append]
  split
  case h_1 rest start =>
    refine Retraces.mark faces start rfl fun faces level' => ?_
    exact retraces_joined _ a.mul? faces (retraces_group factors faces (level'.trans level))
  case h_2 rest start =>
    refine Retraces.skip faces fun faces level' => ?_
    rw [start] at faces ⊢
    refine Retraces.look (run_peek faces) ?_
    rw [List.head?_cons, if_neg (by decide), if_pos rfl]
    refine Retraces.bump faces rfl fun faces level'' => ?_
    exact retraces_joined _ a.div? faces
      (retraces_group factors faces (level''.trans (level'.trans level)))
  case h_3 star slash =>
    refine Retraces.skip faces fun faces _ => ?_
    refine Retraces.look (run_peek faces) ?_
    rw [if_neg (head?_ne_of_forall star), if_neg (head?_ne_of_forall slash)]
    exact retraces_noRound gap

theorem retraces_expressionWith (factors : RetracesFactors unit registry depth walk read)
    (faces : cursor.Faces unit text) (level : cursor.depth = depth) :
    Retraces unit cursor text (expressionWith unit walk) (Reader.expression read text) := by
  refine Retraces.bind faces (retraces_group factors faces level) fun gap faces level' => ?_
  refine retraces_loop ?_ (retraces_productRound factors _) _ _ gap rfl faces
    (level'.trans level)
  intro a b text rest step
  obtain ⟨gap, right, c, -, ⟨rfl, -⟩ | ⟨rfl, -⟩⟩ :=
    Reader.group_of_productStep (Reader.readsGroups factors.reads) step
  all_goals
    simp only [List.length_append, List.length_cons]
    omega

end Rounds

/-! By induction on how many expressions may be under way: each of them stands in one more
parenthesis. -/

variable {calls : Nat}

theorem retracesFactors (unit : String) (registry : Registry) (calls : Nat) {depth : Nat}
    (enough : Registry.maxDepth - depth ≤ calls) :
    RetracesFactors unit registry depth (factor unit registry calls)
      (Reader.factor registry (Registry.maxDepth - depth)) := by
  induction calls generalizing depth with
  | zero =>
      have none : Registry.maxDepth - depth = 0 := Nat.le_zero.mp enough
      refine ⟨Reader.readsFactors registry _, fun faces level => ?_⟩
      rw [none]
      exact retraces_factorWith registry (.crowded (by omega)) faces
  | succ calls ih =>
      refine ⟨Reader.readsFactors registry _, fun faces level => ?_⟩
      cases room : Registry.maxDepth - depth with
      | zero => exact retraces_factorWith registry (.crowded (by omega)) faces
      | succ further =>
          have inside := @ih (depth + 1) (by omega)
          rw [show Registry.maxDepth - (depth + 1) = further by omega] at inside
          refine retraces_factorWith registry (.opens (by omega) fun faces level' => ?_) faces
          exact retraces_expressionWith inside faces (by omega)

theorem retraces_expression (unit : String) (registry : Registry)
    (enough : Registry.maxDepth - cursor.depth < calls) (faces : cursor.Faces unit text) :
    Retraces unit cursor text (expression unit registry calls)
      (Reader.expression (Reader.factor registry (Registry.maxDepth - cursor.depth)) text) := by
  cases calls with
  | zero => exact absurd enough (Nat.not_lt_zero _)
  | succ calls =>
      have inside := retracesFactors unit registry calls (Nat.le_of_lt_succ enough)
      exact retraces_expressionWith inside faces rfl

theorem faces_start (unit : String) : Cursor.Faces unit ⟨0, 0⟩ unit.toList :=
  ⟨[], rfl, rfl⟩

theorem retraces_whole (unit : String) (registry : Registry)
    (enough : Registry.maxDepth < calls) :
    Retraces unit ⟨0, 0⟩ unit.toList (whole unit registry calls)
      (Reader.expression (Reader.factor registry Registry.maxDepth) unit.toList >>=
        Reader.atEnd) := by
  have read := retraces_expression unit registry enough (faces_start unit)
  refine Retraces.bind (faces_start unit) read fun gap faces _ => ?_
  refine Retraces.skip faces fun faces _ => ?_
  refine Retraces.look (run_peek faces) ?_
  rw [Reader.atEnd, trimStart_append]
  cases start : trimStart _ with
  | nil => exact retraces_pure _ noBlanks
  | cons c rest =>
      rw [start] at faces
      refine Retraces.look (run_offset _) ?_
      refine retraces_throw ?_ (by rintro ⟨⟩)
      rw [Fault.failure, faces.offsetOf_eq]

theorem parse_eq (unit : String) (registry : Registry) (enough : Registry.maxDepth < calls) :
    parse unit registry calls = some (registry.parse unit) := by
  rw [parse, Registry.parse]
  split
  case isTrue blank =>
    rw [Registry.read_blanks (List.all_eq_true.mp blank)]
  case isFalse notBlank =>
    rw [Reader.read_of_not_blank (by simpa using notBlank)]
    have retraces := retraces_whole unit registry enough
    generalize (Reader.expression (Reader.factor registry Registry.maxDepth) unit.toList >>=
      Reader.atEnd) = outcome at retraces ⊢
    cases retraces with
    | done gap split left matched run =>
        rw [run]
        rfl
    | refused part depth split run crowded =>
        rw [run]
        rfl

end Walk

end Units

end Dimensional
