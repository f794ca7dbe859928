import Dimensional.Proofs.Units.Canonical
import Dimensional.Proofs.Units.Cursor

/-!
Walks over a unit that start in front of some text, and what it means that such a walk retraces a
reader: it ends, without cutting the unit within a character, and with the value or the failure of
the reader; a success has taken what the reader has taken, white space behind it aside.
-/

namespace Dimensional

namespace Text

theorem cutAt?_cons {c : Char} {n : Nat} (fits : c.utf8Size ≤ n) (text : List Char) :
    cutAt? (c :: text) n =
      (cutAt? text (n - c.utf8Size)).map fun cut => (c :: cut.1, cut.2) := by
  cases n with
  | zero => exact absurd fits (Nat.not_le.mpr c.utf8Size_pos)
  | succ n => exact if_pos fits

@[simp] theorem cutAt?_append (front back : List Char) :
    cutAt? (front ++ back) (byteSize front) = some (front, back) := by
  induction front with
  | nil => cases back <;> rfl
  | cons c front ih =>
      rw [List.cons_append, byteSize_cons, cutAt?_cons (Nat.le_add_right ..),
        Nat.add_sub_cancel_left, ih]
      rfl

/-- As many parentheses are opened as closed. -/
def Matched (part : List Char) : Prop :=
  part.count '(' = part.count ')'

theorem Matched.append {front back : List Char} (hfront : Matched front)
    (hback : Matched back) : Matched (front ++ back) := by
  simp only [Matched, List.count_append] at *
  omega

theorem Matched.enclosed {part gap : List Char} (hpart : Matched part) (hgap : Matched gap) :
    Matched ('(' :: part ++ (gap ++ [')'])) := by
  simp only [Matched, List.count_append, List.count_cons_self,
    List.count_cons_of_ne (by decide : '(' ≠ ')'), List.count_cons_of_ne (by decide : ')' ≠ '('),
    List.count_nil] at *
  omega

theorem Matched.count_opened {part : List Char} (matched : Matched part) :
    ('(' :: part).count ')' ≤ ('(' :: part).count '(' := by
  rw [List.count_cons_self, List.count_cons_of_ne (by decide), ← matched]
  exact Nat.le_succ _

theorem matched_takeWhile {among : Char → Bool} (hopen : among '(' = false)
    (hclose : among ')' = false) (text : List Char) : Matched (text.takeWhile among) := by
  have absent : ∀ {c}, among c = false → (text.takeWhile among).count c = 0 := by
    intro c other
    refine List.count_eq_zero.mpr fun member => ?_
    exact absurd (List.all_eq_true.mp List.all_takeWhile c member) (by simp [other])
  rw [Matched, absent hopen, absent hclose]

end Text

namespace Units

open Text Grammar

namespace Cursor

variable {unit : String} {cursor : Cursor} {text part rest : List Char}

/-- The cursor stands between two characters of the unit, or at one of its ends, and this is the
text from there on. -/
def Faces (unit : String) (cursor : Cursor) (text : List Char) : Prop :=
  ∃ front, unit.toList = front ++ text ∧ byteSize front = cursor.offset

def behind (cursor : Cursor) (part : List Char) : Cursor :=
  ⟨cursor.offset + byteSize part, cursor.depth⟩

@[simp] theorem depth_behind (cursor : Cursor) (part : List Char) :
    (cursor.behind part).depth = cursor.depth := rfl

@[simp] theorem offset_behind (cursor : Cursor) (part : List Char) :
    (cursor.behind part).offset = cursor.offset + byteSize part := rfl

theorem behind_behind (cursor : Cursor) (front back : List Char) :
    (cursor.behind front).behind back = cursor.behind (front ++ back) := by
  simp [behind, Nat.add_assoc]

theorem Faces.behind (faces : cursor.Faces unit (part ++ rest)) :
    (cursor.behind part).Faces unit rest := by
  obtain ⟨front, split, size⟩ := faces
  refine ⟨front ++ part, ?_, ?_⟩
  · rw [split, List.append_assoc]
  · rw [byteSize_append, size, offset_behind]

/-- Behind all characters of a class that come next. -/
theorem Faces.behind_takeWhile (among : Char → Bool) (faces : cursor.Faces unit text) :
    (cursor.behind (text.takeWhile among)).Faces unit (text.dropWhile among) := by
  refine Faces.behind ?_
  rwa [List.takeWhile_append_dropWhile]

theorem Faces.behind_blanks (faces : cursor.Faces unit text) :
    (cursor.behind (text.takeWhile isBlank)).Faces unit (trimStart text) :=
  faces.behind_takeWhile isBlank

theorem Faces.deeper {depth : Nat} (faces : cursor.Faces unit text) :
    Faces unit ⟨cursor.offset, depth⟩ text :=
  faces

theorem Faces.behind_cons {c : Char} (faces : cursor.Faces unit (c :: text)) :
    (cursor.behind [c]).Faces unit text :=
  Faces.behind faces

theorem Faces.offsetOf_eq (faces : cursor.Faces unit text) :
    offsetOf unit.toList text = cursor.offset := by
  obtain ⟨front, split, size⟩ := faces
  rw [split, offsetOf_append, size]

end Cursor

namespace Walk

variable {unit : String} {cursor after : Cursor} {text part rest : List Char} {α β : Type}

theorem bind_ok {walk : Walk α} {next : α → Walk β} {a : α}
    (run : walk cursor = some (.ok a, after)) : (walk >>= next) cursor = next a after := by
  simp only [bind, ExceptT.bind, ExceptT.mk, StateT.bind, run]
  rfl

theorem bind_error {walk : Walk α} {next : α → Walk β} {failure : Failure}
    (run : walk cursor = some (.error failure, after)) :
    (walk >>= next) cursor = some (.error failure, after) := by
  simp only [bind, ExceptT.bind, ExceptT.mk, StateT.bind, run]
  rfl

theorem bind_none {walk : Walk α} {next : α → Walk β} (run : walk cursor = none) :
    (walk >>= next) cursor = none := by
  simp only [bind, ExceptT.bind, ExceptT.mk, StateT.bind, run]
  rfl

theorem ok_of_bind {walk : Walk α} {next : α → Walk β} {b : β}
    (run : (walk >>= next) cursor = some (.ok b, after)) :
    ∃ a place, walk cursor = some (.ok a, place) ∧ next a place = some (.ok b, after) := by
  cases first : walk cursor with
  | none => cases (bind_none first).symm.trans run
  | some ending =>
      obtain ⟨outcome, place⟩ := ending
      cases outcome with
      | error failure => cases (bind_error first).symm.trans run
      | ok a => exact ⟨a, place, rfl, (bind_ok first).symm.trans run⟩

section Loops

variable {round : α → Walk (Option α)} {a b : α} {ending : Except Failure α × Cursor} {n : Nat}

/-- Once some rounds are enough, more of them come to the same. -/
theorem loopUpTo_add (enough : loopUpTo round n a cursor = some ending) (more : Nat) :
    loopUpTo round (n + more) a cursor = some ending := by
  induction n generalizing a cursor with
  | zero => cases enough
  | succ n ih =>
      rw [Nat.add_right_comm, loopUpTo]
      rw [loopUpTo] at enough
      cases run : round a cursor with
      | none => rw [bind_none run] at enough; cases enough
      | some found =>
          obtain ⟨outcome, after⟩ := found
          cases outcome with
          | error failure => rwa [bind_error run] at enough ⊢
          | ok next =>
              rw [bind_ok run] at enough ⊢
              cases next with
              | none => exact enough
              | some b => exact ih enough

theorem loop_eq_some (enough : loopUpTo round n a cursor = some ending) :
    loop round a cursor = some ending := by
  have reached : ∃ rounds, (loopUpTo round rounds a cursor).isSome :=
    ⟨n, by rw [enough]; rfl⟩
  obtain ⟨chosen, found⟩ := Option.isSome_iff_exists.mp reached.choose_spec
  have same := loopUpTo_add found n
  rw [Nat.add_comm, loopUpTo_add enough] at same
  rw [loop, dif_pos reached, found, same]

theorem loop_of_error {failure : Failure} (run : round a cursor = some (.error failure, after)) :
    loop round a cursor = some (.error failure, after) :=
  loop_eq_some (n := 1) (bind_error run)

theorem loop_of_none (run : round a cursor = some (.ok none, after)) :
    loop round a cursor = some (.ok a, after) :=
  loop_eq_some (n := 1) (bind_ok run)

theorem loop_of_some (run : round a cursor = some (.ok (some b), after)) :
    loop round a cursor = loop round b after := by
  have step : ∀ n, loopUpTo round (n + 1) a cursor = loopUpTo round n b after :=
    fun n => bind_ok run
  by_cases enough : ∃ rounds, (loopUpTo round rounds b after).isSome
  case pos =>
    obtain ⟨n, some⟩ := enough
    obtain ⟨ending, found⟩ := Option.isSome_iff_exists.mp some
    rw [loop_eq_some found, loop_eq_some ((step n).trans found)]
  case neg =>
    have endless : ¬ ∃ rounds, (loopUpTo round rounds a cursor).isSome := by
      rintro ⟨rounds, some⟩
      cases rounds with
      | zero => cases some
      | succ n => exact enough ⟨n, (step n) ▸ some⟩
    rw [loop, loop, dif_neg endless, dif_neg enough]

end Loops

/-! What the single steps do in front of a text. -/

theorem run_offset (cursor : Cursor) : offset cursor = some (.ok cursor.offset, cursor) := rfl

theorem run_ahead (faces : cursor.Faces unit text) :
    ahead unit cursor = some (.ok text, cursor) := by
  obtain ⟨front, split, size⟩ := faces
  rw [ahead, split, ← size, cutAt?_append]
  rfl

theorem run_peek (faces : cursor.Faces unit text) :
    peek unit cursor = some (.ok text.head?, cursor) :=
  bind_ok (run_ahead faces)

theorem run_bump {c : Char} (faces : cursor.Faces unit (c :: text)) :
    bump unit cursor = some (.ok (), cursor.behind [c]) :=
  bind_ok (run_peek faces)

theorem run_since (faces : cursor.Faces unit (part ++ rest)) :
    since unit cursor.offset (cursor.behind part) = some (.ok part, cursor.behind part) := by
  obtain ⟨front, split, size⟩ := faces
  rw [since, split, ← List.append_assoc, Cursor.offset_behind, ← size, ← byteSize_append,
    cutAt?_append, Option.bind_some, cutAt?_append]
  rfl

theorem run_passOne {among : Char → Bool} {c : Char} (faces : cursor.Faces unit (c :: text)) :
    passOne unit among cursor =
      if among c then some (.ok (some ()), cursor.behind [c]) else some (.ok none, cursor) := by
  rw [passOne, bind_ok (run_peek faces)]
  cases member : among c <;> simp only [List.head?_cons, member] <;> rfl

theorem loop_passOne (among : Char → Bool) (text : List Char) {cursor : Cursor}
    (faces : cursor.Faces unit text) :
    loop (fun _ => passOne unit among) () cursor =
      some (.ok (), cursor.behind (text.takeWhile among)) := by
  induction text generalizing cursor with
  | nil => exact loop_of_none (bind_ok (run_peek faces))
  | cons c text ih =>
      have run : passOne unit among cursor = _ := run_passOne faces
      rw [List.takeWhile_cons]
      split at run
      case isTrue member =>
        rw [loop_of_some run, ih faces.behind_cons, if_pos member,
          Cursor.behind_behind]
        rfl
      case isFalse other =>
        rw [loop_of_none run, if_neg other]
        rfl

theorem run_takeWhile (among : Char → Bool) (faces : cursor.Faces unit text) :
    takeWhile unit among cursor =
      some (.ok (text.takeWhile among), cursor.behind (text.takeWhile among)) := by
  have split : text.takeWhile among ++ text.dropWhile among = text :=
    List.takeWhile_append_dropWhile
  rw [takeWhile, bind_ok (run_offset cursor), bind_ok (loop_passOne among text faces)]
  rw [← split] at faces
  exact run_since faces

theorem run_skipBlanks (faces : cursor.Faces unit text) :
    skipBlanks unit cursor = some (.ok (), cursor.behind (text.takeWhile isBlank)) :=
  bind_ok (run_takeWhile isBlank faces)

theorem run_bump_behind_blanks {next : Walk β} {c : Char} (faces : cursor.Faces unit text)
    (start : trimStart text = c :: rest) :
    (bump unit >>= fun _ => next) (cursor.behind (text.takeWhile isBlank)) =
      next (cursor.behind (text.takeWhile isBlank ++ [c])) := by
  have behind := faces.behind_blanks
  rw [start] at behind
  rw [bind_ok (run_bump behind), Cursor.behind_behind]

/-- A walk ends as reading the text in front of it does.  What is noted of a refusal for depth is
that too many parentheses are open, those included that were open at the start. -/
inductive Retraces (unit : String) (cursor : Cursor) (text : List Char) (walk : Walk α) :
    Except Fault (α × List Char) → Prop
  | done {a : α} {part rest behind : List Char} (gap : Blanks) (split : text = part ++ rest)
      (left : behind = gap.text ++ rest) (matched : Matched part)
      (run : walk cursor = some (.ok a, cursor.behind part)) :
      Retraces unit cursor text walk (.ok (a, behind))
  | refused {fault : Fault} {rest : List Char} (part : List Char) (depth : Nat)
      (split : text = part ++ rest) (run : walk cursor =
        some (.error (fault.failure unit), ⟨cursor.offset + byteSize part, depth⟩))
      (crowded : fault.cause = .nestedTooDeeply → rest.head? = some '(' ∧
        Registry.maxDepth + part.count ')' ≤ cursor.depth + part.count '(') :
      Retraces unit cursor text walk (.error fault)

section Retraces

variable {walk : Walk α} {next : α → Walk β} {outcome : Except Fault (β × List Char)}

/-- A refusal stays one behind a part that leaves parentheses open. -/
theorem Retraces.refusal {further walk : Walk β} {fault : Fault}
    (run : walk cursor = further (cursor.behind part)) (opens : part.count ')' ≤ part.count '(')
    (onward : Retraces unit (cursor.behind part) rest further (.error fault)) :
    Retraces unit cursor (part ++ rest) walk (.error fault) := by
  cases onward with
  | refused more depth split run' crowded =>
      refine .refused (part ++ more) depth (by rw [split, List.append_assoc]) ?_ ?_
      · rw [run, run', Cursor.offset_behind, byteSize_append, Nat.add_assoc]
      · intro deep
        obtain ⟨opened, many⟩ := crowded deep
        refine ⟨opened, ?_⟩
        simp only [List.count_append, Cursor.depth_behind] at *
        omega

theorem Retraces.onward {further walk : Walk β}
    (run : walk cursor = further (cursor.behind part)) (matched : Matched part)
    (onward : Retraces unit (cursor.behind part) rest further outcome) :
    Retraces unit cursor (part ++ rest) walk outcome := by
  cases outcome with
  | error fault => exact Retraces.refusal run (Nat.le_of_eq matched.symm) onward
  | ok result =>
      cases onward with
      | done gap split left matched' run' =>
          refine .done gap ?_ left (matched.append matched') ?_
          · rw [split, List.append_assoc]
          · rw [run, run', Cursor.behind_behind]

theorem Retraces.behind {a : α} (run : walk cursor = some (.ok a, cursor.behind part))
    (matched : Matched part)
    (onward : Retraces unit (cursor.behind part) rest (next a) outcome) :
    Retraces unit cursor (part ++ rest) (walk >>= next) outcome :=
  Retraces.onward (bind_ok run) matched onward

theorem Retraces.bind {read : Except Fault (α × List Char)}
    {further : α × List Char → Except Fault (β × List Char)} (faces : cursor.Faces unit text)
    (first : Retraces unit cursor text walk read)
    (onward : ∀ {a : α} {after : Cursor} {rest : List Char} (gap : Blanks),
      after.Faces unit rest → after.depth = cursor.depth →
        Retraces unit after rest (next a) (further (a, gap.text ++ rest))) :
    Retraces unit cursor text (walk >>= next) (read >>= further) := by
  cases first with
  | @done a part rest _ gap split left matched run =>
      subst split left
      exact Retraces.behind run matched (onward gap faces.behind rfl)
  | refused part depth split run crowded =>
      exact .refused part depth split (bind_error run) crowded

theorem Retraces.fails {fault : Fault} (first : Retraces unit cursor text walk (.error fault)) :
    Retraces unit cursor text (walk >>= next) (.error fault) := by
  cases first with
  | refused part depth split run crowded =>
      exact .refused part depth split (bind_error run) crowded

/-! A walk may look around and pass over white space and marks before it goes on. -/

theorem Retraces.look {a : α} (run : walk cursor = some (.ok a, cursor))
    (onward : Retraces unit cursor text (next a) outcome) :
    Retraces unit cursor text (walk >>= next) outcome :=
  Retraces.behind (show walk cursor = some (.ok a, cursor.behind []) from run) rfl onward

theorem Retraces.take {among : Char → Bool} {next : List Char → Walk β}
    (faces : cursor.Faces unit text) (hopen : among '(' = false) (hclose : among ')' = false)
    (onward : Retraces unit (cursor.behind (text.takeWhile among)) (text.dropWhile among)
      (next (text.takeWhile among)) outcome) :
    Retraces unit cursor text (takeWhile unit among >>= next) outcome := by
  have whole := Retraces.behind (run_takeWhile among faces)
    (matched_takeWhile hopen hclose text) onward
  rwa [List.takeWhile_append_dropWhile] at whole

theorem Retraces.skip {next : Unit → Walk β} (faces : cursor.Faces unit text)
    (onward : ∀ {after : Cursor}, after.Faces unit (trimStart text) →
      after.depth = cursor.depth → Retraces unit after (trimStart text) (next ()) outcome) :
    Retraces unit cursor text (skipBlanks unit >>= next) outcome := by
  have whole := Retraces.behind (run_skipBlanks faces)
    (matched_takeWhile (by decide) (by decide) text)
    (onward faces.behind_blanks rfl)
  rwa [trimStart, List.takeWhile_append_dropWhile] at whole

theorem Retraces.bump {next : Unit → Walk β} {c : Char} (faces : cursor.Faces unit (c :: text))
    (matched : Matched [c])
    (onward : ∀ {after : Cursor}, after.Faces unit text → after.depth = cursor.depth →
      Retraces unit after text (next ()) outcome) :
    Retraces unit cursor (c :: text) (bump unit >>= next) outcome :=
  Retraces.behind (run_bump faces) matched (onward faces.behind_cons rfl)

end Retraces

/-! Whether a mark comes next, white space in front of it aside. -/

theorem head?_ne_of_forall {c : Char} (other : ∀ rest, text = c :: rest → False) :
    text.head? ≠ some c := by
  intro first
  obtain ⟨rest, rfl⟩ := List.head?_eq_some_iff.mp first
  exact other rest rfl

section Marks

variable {c : Char} {yes : Walk β} {no : Option Char → Walk β}
  {outcome : Except Fault (β × List Char)}

theorem Retraces.mark (faces : cursor.Faces unit text) (start : trimStart text = c :: rest)
    (matched : Matched [c])
    (onward : ∀ {after : Cursor}, after.Faces unit rest → after.depth = cursor.depth →
      Retraces unit after rest yes outcome) :
    Retraces unit cursor text (do
      skipBlanks unit
      let head ← peek unit
      if head = some c then
        Walk.bump unit
        yes
      else no head) outcome := by
  refine Retraces.skip faces fun faces depth => ?_
  rw [start] at faces ⊢
  refine Retraces.look (run_peek faces) ?_
  rw [List.head?_cons, if_pos rfl]
  refine Retraces.bump faces matched fun faces depth' => ?_
  exact onward faces (depth'.trans depth)

theorem Retraces.noMark (faces : cursor.Faces unit text)
    (other : ∀ rest, trimStart text = c :: rest → False)
    (onward : ∀ {after : Cursor}, after.Faces unit (trimStart text) →
      after.depth = cursor.depth →
        Retraces unit after (trimStart text) (no (trimStart text).head?) outcome) :
    Retraces unit cursor text (do
      skipBlanks unit
      let head ← peek unit
      if head = some c then
        Walk.bump unit
        yes
      else no head) outcome := by
  refine Retraces.skip faces fun faces depth => ?_
  refine Retraces.look (run_peek faces) ?_
  rw [if_neg (head?_ne_of_forall other)]
  exact onward faces depth

end Marks

end Walk

end Units

end Dimensional
