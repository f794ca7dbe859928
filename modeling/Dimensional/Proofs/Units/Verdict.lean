import Dimensional.Proofs.Units.Table

/-!
Which tables are refused, and what is said of them.  A line is judged by itself: first the number of
its fields, then its exponents from left to right, and last its flag.  The first line at fault is
the one that is named, and symbols are compared only where no line is at fault.
-/

namespace Dimensional.Units.Table

open Text
open Reader (bind_eq_ok_iff)

section Integers

open Grammar (Digits Integer)

theorem digitsOnly?_eq_some_iff {raw : List Char} {n : Nat} :
    Number.digitsOnly? raw = some n ↔ ∃ digits : Digits, raw = digits.text ∧ digits.value = n := by
  rw [Number.digitsOnly?, Option.ite_none_left_eq_some, not_or, List.isEmpty_iff,
    Bool.not_eq_true', Bool.not_eq_false, List.all_eq_true, Option.some_inj]
  constructor
  · rintro ⟨⟨nonempty, digits⟩, value⟩
    exact ⟨⟨⟨raw, digits⟩, nonempty⟩, rfl, value⟩
  · rintro ⟨digits, rfl, value⟩
    exact ⟨⟨digits.nonempty, digits.mem_among⟩, value⟩

theorem unsigned_eq_some_iff {raw : List Char} {n : Int} :
    (Number.digitsOnly? raw >>= fun m => pure (m : Int)) = some n ↔
      ∃ digits : Digits, raw = digits.text ∧ digits.value = n := by
  rw [Option.bind_eq_bind, Option.bind_eq_some_iff]
  constructor
  · rintro ⟨m, read, value⟩
    obtain ⟨digits, rfl, rfl⟩ := digitsOnly?_eq_some_iff.mp read
    exact ⟨digits, rfl, Option.some.inj value⟩
  · rintro ⟨digits, rfl, rfl⟩
    exact ⟨_, digitsOnly?_eq_some_iff.mpr ⟨digits, rfl, rfl⟩, rfl⟩

theorem text_ne_cons (digits : Digits) {c : Char} {rest : List Char} (other : c.isDigit = false) :
    digits.text ≠ c :: rest := by
  intro same
  have digit := digits.mem_among c (same ▸ List.mem_cons_self)
  rw [other] at digit
  contradiction

theorem signedInt?_eq_some_iff {raw : List Char} {n : Int} :
    Number.signedInt? raw = some n ↔ ∃ i : Integer, raw = i.text ∧ i.value = n := by
  constructor
  · intro read
    unfold Number.signedInt? at read
    split at read
    all_goals
      obtain ⟨m, unsigned, rfl⟩ := Option.map_eq_some_iff.mp read
      obtain ⟨digits, rfl, rfl⟩ := unsigned_eq_some_iff.mp unsigned
    case h_1 => exact ⟨⟨.minus, digits⟩, rfl, rfl⟩
    case h_2 => exact ⟨⟨.plus, digits⟩, rfl, rfl⟩
    case h_3 => exact ⟨⟨.absent, digits⟩, rfl, rfl⟩
  · rintro ⟨⟨sign, digits⟩, rfl, rfl⟩
    have read := unsigned_eq_some_iff.mpr ⟨digits, rfl, rfl⟩
    cases sign with
    | minus => exact Option.map_eq_some_iff.mpr ⟨_, read, rfl⟩
    | plus => exact Option.map_eq_some_iff.mpr ⟨_, read, rfl⟩
    | absent =>
        change Number.signedInt? digits.text = _
        unfold Number.signedInt?
        split
        case h_1 same => exact absurd same (text_ne_cons digits (by decide))
        case h_2 same => exact absurd same (text_ne_cons digits (by decide))
        case h_3 => exact Option.map_eq_some_iff.mpr ⟨_, read, rfl⟩

/-- A sign, or none, in front of decimal digits, for a number that takes 32 bits. -/
structure IsInt32 (raw : List Char) (n : Int) : Prop where
  spelled : ∃ i : Integer, raw = i.text ∧ i.value = n
  least : -2 ^ 31 ≤ n
  most : n < 2 ^ 31

theorem int32?_eq_some_iff {raw : List Char} {n : Int} :
    Number.int32? raw = some n ↔ IsInt32 raw n := by
  rw [Number.int32?, Option.filter_eq_some_iff, signedInt?_eq_some_iff, Bool.and_eq_true,
    decide_eq_true_iff, decide_eq_true_iff]
  constructor
  · rintro ⟨spelled, least, most⟩
    exact ⟨spelled, by omega, by omega⟩
  · rintro ⟨spelled, least, most⟩
    exact ⟨spelled, by omega, by omega⟩

theorem int32?_eq_none_iff {raw : List Char} :
    Number.int32? raw = none ↔ ∀ n, ¬ IsInt32 raw n := by
  rw [Option.eq_none_iff_forall_ne_some]
  exact forall_congr' fun n => not_congr int32?_eq_some_iff

end Integers

section Sequences

variable {ε α β : Type} {f : α → Except ε β} {items : List α} {e : ε}

theorem bind_eq_error_iff {first : Except ε α} {next : α → Except ε β} :
    (first >>= next) = .error e ↔
      first = .error e ∨ ∃ a, first = .ok a ∧ next a = .error e := by
  cases first with
  | error => simp [bind, Except.bind]
  | ok => simp [bind, Except.bind]

/-- What fails first fails the whole. -/
theorem mapM_eq_error_iff :
    items.mapM f = .error e ↔ ∃ before item behind, items = before ++ item :: behind ∧
      (∀ earlier ∈ before, ∃ b, f earlier = .ok b) ∧ f item = .error e := by
  induction items with
  | nil =>
      rw [List.mapM_nil]
      exact iff_of_false nofun (by simp)
  | cons item items ih =>
      rw [List.mapM_cons, bind_eq_error_iff]
      constructor
      · rintro (failed | ⟨b, made, failed⟩)
        · exact ⟨[], item, items, rfl, by simp, failed⟩
        · obtain failed | ⟨bs, -, failed⟩ := bind_eq_error_iff.mp failed
          · obtain ⟨before, bad, behind, rfl, sound, failed⟩ := ih.mp failed
            have sound := List.forall_mem_cons.mpr ⟨⟨b, made⟩, sound⟩
            exact ⟨item :: before, bad, behind, rfl, sound, failed⟩
          · cases failed
      · rintro ⟨before, bad, behind, split, sound, failed⟩
        cases before with
        | nil =>
            obtain ⟨rfl, rfl⟩ := List.cons.inj split
            exact .inl failed
        | cons first before =>
            obtain ⟨rfl, rfl⟩ := List.cons.inj split
            obtain ⟨⟨b, made⟩, sound⟩ := List.forall_mem_cons.mp sound
            refine .inr ⟨b, made, bind_eq_error_iff.mpr (.inl ?_)⟩
            exact ih.mpr ⟨before, bad, behind, rfl, sound, failed⟩

theorem exists_mapM_eq_ok_iff :
    (∃ bs, items.mapM f = .ok bs) ↔ ∀ item ∈ items, ∃ b, f item = .ok b := by
  induction items with
  | nil => exact iff_of_true ⟨[], rfl⟩ (by simp)
  | cons item items ih =>
      rw [List.mapM_cons, List.forall_mem_cons, ← ih]
      constructor
      · rintro ⟨_, made⟩
        obtain ⟨b, first, made⟩ := bind_eq_ok_iff.mp made
        obtain ⟨bs, others, -⟩ := bind_eq_ok_iff.mp made
        exact ⟨⟨b, first⟩, bs, others⟩
      · rintro ⟨⟨b, first⟩, bs, others⟩
        rw [first, others]
        exact ⟨b :: bs, rfl⟩

end Sequences

section Lines

variable {number : Nat} {line : List Char} {fault : Fault}

def fieldsOf (line : List Char) : List (List Char) :=
  (splitAt ',' line).map trim

def exponentsOf (line : List Char) : List (List Char) :=
  ((fieldsOf line).drop 2).take 8

/-- The first field of a line. -/
def symbolOf (line : List Char) : List Char :=
  (fieldsOf line).headD []

structure WellFormed (line : List Char) : Prop where
  columns : (fieldsOf line).length = 12
  exponents : ∀ raw ∈ exponentsOf line, ∃ n, IsInt32 raw n
  flag : ∃ prefixable, (fieldsOf line)[11]? = some (boolText prefixable)

/-- What a line is blamed for. -/
inductive Blames (number : Nat) (line : List Char) : Fault → Prop
  | columns (other : (fieldsOf line).length ≠ 12) :
      Blames number line (.columns number (fieldsOf line).length)
  | exponent {before behind : List (List Char)} {raw : List Char}
      (columns : (fieldsOf line).length = 12)
      (split : exponentsOf line = before ++ raw :: behind)
      (sound : ∀ earlier ∈ before, ∃ n, IsInt32 earlier n) (bad : ∀ n, ¬ IsInt32 raw n) :
      Blames number line (.exponent number raw)
  | flag {raw : List Char} (columns : (fieldsOf line).length = 12)
      (sound : ∀ raw ∈ exponentsOf line, ∃ n, IsInt32 raw n)
      (last : (fieldsOf line)[11]? = some raw) (bad : ∀ prefixable, raw ≠ boolText prefixable) :
      Blames number line (.flag number raw)

theorem exponentField_eq_error_iff {raw : List Char} :
    exponentField number raw = .error fault ↔
      (∀ n, ¬ IsInt32 raw n) ∧ fault = .exponent number raw := by
  rw [exponentField, ← int32?_eq_none_iff]
  cases Number.int32? raw with
  | none => simp [eq_comm]
  | some n => simp

theorem exists_exponentField_iff {raw : List Char} :
    (∃ n, exponentField number raw = .ok n) ↔ ∃ n, IsInt32 raw n := by
  constructor
  · rintro ⟨n, read⟩
    exact ⟨n, int32?_eq_some_iff.mp (exponentField_eq_ok read)⟩
  · rintro ⟨n, spelled⟩
    rw [exponentField, int32?_eq_some_iff.mpr spelled]
    exact ⟨n, rfl⟩

theorem flagField_boolText (number : Nat) (prefixable : Bool) :
    flagField number (boolText prefixable) = .ok prefixable := by
  cases prefixable <;> rfl

theorem flagField_eq_error_iff {raw : List Char} :
    flagField number raw = .error fault ↔
      (∀ prefixable, raw ≠ boolText prefixable) ∧ fault = .flag number raw := by
  have neither (bad : ∀ prefixable, raw ≠ boolText prefixable) :
      flagField number raw = .error (.flag number raw) := by
    have notTrue : raw ≠ "true".toList := bad true
    have notFalse : raw ≠ "false".toList := bad false
    rw [flagField, if_neg notTrue, if_neg notFalse]
  constructor
  · intro failed
    have bad : ∀ prefixable, raw ≠ boolText prefixable := by
      rintro prefixable rfl
      cases failed.symm.trans (flagField_boolText number prefixable)
    exact ⟨bad, Except.error.inj (failed.symm.trans (neither bad))⟩
  · rintro ⟨bad, rfl⟩
    exact neither bad

theorem row_of_columns (other : (fieldsOf line).length ≠ 12) :
    row number line = .error (.columns number (fieldsOf line).length) := by
  unfold row
  split
  case h_1 same => exact absurd (congrArg List.length same) other
  case h_2 => rfl

theorem exists_mapM_exponentField_iff {exponents : List (List Char)} :
    (∃ powers, exponents.mapM (exponentField number) = .ok powers) ↔
      ∀ raw ∈ exponents, ∃ n, IsInt32 raw n := by
  rw [exists_mapM_eq_ok_iff]
  simp only [exists_exponentField_iff]

/-- A line of twelve fields: between two in front and two behind stand the exponents. -/
theorem exists_fields (columns : (fieldsOf line).length = 12) :
    ∃ symbol name scale flag,
      fieldsOf line = symbol :: name :: (exponentsOf line ++ [scale, flag]) ∧
        (exponentsOf line).length = 8 := by
  have front : ((fieldsOf line).take 2).length = 2 := by rw [List.length_take]; omega
  have back : ((fieldsOf line).drop 10).length = 2 := by rw [List.length_drop]; omega
  obtain ⟨symbol, name, front⟩ := List.length_eq_two.mp front
  obtain ⟨scale, flag, back⟩ := List.length_eq_two.mp back
  refine ⟨symbol, name, scale, flag, ?_, ?_⟩
  · calc fieldsOf line
        = (fieldsOf line).take 2 ++ (exponentsOf line ++ ((fieldsOf line).drop 2).drop 8) := by
          rw [exponentsOf, List.take_append_drop, List.take_append_drop]
      _ = symbol :: name :: (exponentsOf line ++ [scale, flag]) := by
          rw [front, List.drop_drop, back]
          rfl
  · rw [exponentsOf, List.length_take, List.length_drop]
    omega

section Shape

variable {symbol name scale flag : List Char} {exponents : List (List Char)}
  (shape : fieldsOf line = symbol :: name :: (exponents ++ [scale, flag]))
  (size : exponents.length = 8)

include shape size

theorem row_of_fields :
    row number line = do
      let powers ← exponents.mapM (exponentField number)
      let prefixable ← flagField number flag
      return ⟨symbol, name, .ofFn fun i => powers.getD i 0, scale, prefixable⟩ := by
  match exponents, size with
  | [e₀, e₁, e₂, e₃, e₄, e₅, e₆, e₇], _ =>
      delta fieldsOf at shape
      simp only [row, shape, List.cons_append, List.nil_append, List.mapM_cons, List.mapM_nil,
        bind_assoc, pure_bind]
      rfl

theorem getElem?_flag : (fieldsOf line)[11]? = some flag := by
  rw [shape, List.getElem?_cons_succ, List.getElem?_cons_succ,
    List.getElem?_append_right (by omega), size]
  rfl

theorem exponentsOf_eq : exponentsOf line = exponents := by
  rw [exponentsOf, shape, ← size]
  exact List.take_left

end Shape

theorem row_eq_error_iff_of_columns (columns : (fieldsOf line).length = 12) :
    row number line = .error fault ↔ Blames number line fault := by
  obtain ⟨symbol, name, scale, flag, shape, size⟩ := exists_fields columns
  have last := getElem?_flag shape size
  rw [row_of_fields shape size, bind_eq_error_iff, mapM_eq_error_iff]
  simp only [exists_exponentField_iff, exponentField_eq_error_iff]
  constructor
  · rintro (⟨before, raw, behind, split, sound, bad, rfl⟩ | ⟨powers, made, failed⟩)
    · exact .exponent columns split sound bad
    · have sound := exists_mapM_exponentField_iff.mp ⟨powers, made⟩
      obtain failed | ⟨prefixable, -, failed⟩ := bind_eq_error_iff.mp failed
      · obtain ⟨bad, rfl⟩ := flagField_eq_error_iff.mp failed
        exact .flag columns sound last bad
      · cases failed
  · intro blames
    cases blames with
    | columns other => exact absurd columns other
    | exponent _ split sound bad => exact .inl ⟨_, _, _, split, sound, bad, rfl⟩
    | flag _ sound last' bad =>
        obtain rfl := Option.some.inj (last.symm.trans last')
        obtain ⟨powers, made⟩ := exists_mapM_exponentField_iff.mpr sound
        exact .inr ⟨powers, made,
          bind_eq_error_iff.mpr (.inl (flagField_eq_error_iff.mpr ⟨bad, rfl⟩))⟩

theorem row_eq_error_iff : row number line = .error fault ↔ Blames number line fault := by
  by_cases columns : (fieldsOf line).length = 12
  case pos => exact row_eq_error_iff_of_columns columns
  case neg =>
    rw [row_of_columns columns]
    constructor
    · rintro ⟨⟩
      exact .columns columns
    · intro blames
      cases blames with
      | columns => rfl
      | exponent enough => exact absurd enough columns
      | flag enough => exact absurd enough columns

theorem Describes.wellFormed {row : Row} (h : Describes line row) : WellFormed line := by
  obtain ⟨exponents, shape, read⟩ := h.fields
  have size : exponents.length = 8 := by
    rw [← List.length_map, read, List.length_map, Vector.length_toList]
  refine ⟨?_, ?_, row.prefixable, getElem?_flag shape size⟩
  · rw [fieldsOf, shape]
    simp [size]
  · intro raw mem
    rw [exponentsOf_eq shape size] at mem
    have known : Number.int32? raw ∈ row.exponents.toList.map some :=
      read ▸ List.mem_map_of_mem mem
    obtain ⟨n, -, known⟩ := List.mem_map.mp known
    exact ⟨n, int32?_eq_some_iff.mp known.symm⟩

theorem Blames.not_wellFormed (h : Blames number line fault) : ¬ WellFormed line := by
  rintro ⟨columns, exponents, prefixable, flag⟩
  cases h with
  | columns other => exact other columns
  | exponent _ split _ bad =>
      obtain ⟨n, spelled⟩ :=
        exponents _ (split ▸ List.mem_append_right _ List.mem_cons_self)
      exact bad n spelled
  | flag _ _ last bad => exact bad prefixable (Option.some.inj (last.symm.trans flag))

/-- A line is a row, or something on it is to blame. -/
theorem row_cases (number : Nat) (line : List Char) :
    (∃ made, row number line = .ok made ∧ WellFormed line) ∨
      ∃ fault, row number line = .error fault ∧ Blames number line fault := by
  cases read : row number line with
  | ok made => exact .inl ⟨made, rfl, (describes_of_row read).wellFormed⟩
  | error fault => exact .inr ⟨fault, rfl, row_eq_error_iff.mp read⟩

theorem exists_row_eq_ok_iff : (∃ made, row number line = .ok made) ↔ WellFormed line := by
  obtain ⟨made, read, sound⟩ | ⟨fault, read, blames⟩ := row_cases number line
  · exact iff_of_true ⟨made, read⟩ sound
  · rw [read]
    exact iff_of_false nofun blames.not_wellFormed

theorem exists_blames_iff : (∃ fault, Blames number line fault) ↔ ¬ WellFormed line := by
  obtain ⟨made, read, sound⟩ | ⟨fault, -, blames⟩ := row_cases number line
  · exact iff_of_false (fun ⟨_, blames⟩ => blames.not_wellFormed sound) (not_not_intro sound)
  · exact iff_of_true ⟨fault, blames⟩ blames.not_wellFormed

/-- Whatever a line is blamed for, its number stands in front. -/
theorem Blames.message (h : Blames number line fault) :
    ∃ detail, fault.message = "units.csv:" ++ toString number ++ ": " ++ detail := by
  cases h with
  | columns => exact ⟨_, String.append_assoc⟩
  | exponent => exact ⟨_, String.append_assoc⟩
  | flag => exact ⟨_, String.append_assoc⟩

end Lines

section Contents

variable {content : List Char} {number : Nat} {line : List Char} {fault : Fault}

/-- A line that holds a unit, under the number that it has among all lines. -/
structure UnitLineAt (content : List Char) (number : Nat) (line : List Char) : Prop where
  stands : ∃ index raw, PieceAt '\n' content index raw ∧ index + 1 = number ∧ trim raw = line
  nonempty : line ≠ []
  uncommented : line.head? ≠ some '#'

/-- The first of the lines that have a property. -/
structure FirstLine (content : List Char) (P : Nat → List Char → Prop) (number : Nat)
    (line : List Char) : Prop where
  isLine : UnitLineAt content number line
  has : P number line
  first : ∀ earlier < number, ∀ other, UnitLineAt content earlier other → ¬ P earlier other

/-- The symbol of a line stands on an earlier one already. -/
def Repeats (content : List Char) (number : Nat) (line : List Char) : Prop :=
  ∃ earlier < number, ∃ other, UnitLineAt content earlier other ∧ symbolOf other = symbolOf line

theorem mem_rowLines_iff : (line, number) ∈ rowLines content ↔ UnitLineAt content number line := by
  rw [rowLines, List.mem_filter, List.mk_mem_zipIdx_iff_le_and_getElem?_sub, isRow_iff,
    List.getElem?_map, Option.map_eq_some_iff]
  simp only [getElem?_splitAt_iff]
  constructor
  · rintro ⟨⟨positive, raw, piece, same⟩, nonempty, uncommented⟩
    exact ⟨⟨number - 1, raw, piece, by omega, same⟩, nonempty, uncommented⟩
  · rintro ⟨⟨index, raw, piece, rfl, same⟩, nonempty, uncommented⟩
    exact ⟨⟨by omega, raw, piece, same⟩, nonempty, uncommented⟩

theorem pairwise_rowLines (content : List Char) :
    (rowLines content).Pairwise fun a b => a.2 < b.2 := by
  have numbers : ((((splitAt '\n' content).map trim).zipIdx 1).map (·.2)).Pairwise (· < ·) := by
    rw [List.zipIdx_map_snd]
    exact List.pairwise_lt_range'
  exact (List.pairwise_map.mp numbers).filter _

/-- In front of a line stand those with smaller numbers. -/
theorem mem_before_iff {before behind : List (List Char × Nat)} {item : List Char × Nat}
    (split : rowLines content = before ++ (line, number) :: behind) :
    item ∈ before ↔ item.2 < number ∧ UnitLineAt content item.2 item.1 := by
  have sorted := pairwise_rowLines content
  rw [split, List.pairwise_append, List.pairwise_cons] at sorted
  obtain ⟨-, ⟨following, -⟩, preceding⟩ := sorted
  rw [← mem_rowLines_iff, split]
  constructor
  · intro mem
    exact ⟨preceding item mem _ List.mem_cons_self, List.mem_append_left _ mem⟩
  · rintro ⟨smaller, mem⟩
    rcases List.mem_append.mp mem with mem | mem
    · exact mem
    · rcases List.mem_cons.mp mem with same | mem
      · cases same
        exact absurd smaller (Nat.lt_irrefl _)
      · exact absurd (following item mem) (Nat.lt_asymm smaller)

theorem firstLine_iff {P : Nat → List Char → Prop} :
    FirstLine content P number line ↔
      ∃ before behind, rowLines content = before ++ (line, number) :: behind ∧ P number line ∧
        ∀ item ∈ before, ¬ P item.2 item.1 := by
  constructor
  · rintro ⟨isLine, has, first⟩
    obtain ⟨before, behind, split⟩ := List.append_of_mem (mem_rowLines_iff.mpr isLine)
    refine ⟨before, behind, split, has, fun item mem => ?_⟩
    obtain ⟨smaller, isLine⟩ := (mem_before_iff split).mp mem
    exact first item.2 smaller item.1 isLine
  · rintro ⟨before, behind, split, has, first⟩
    refine ⟨mem_rowLines_iff.mp (by simp [split]), has, fun earlier smaller other isLine => ?_⟩
    exact first (other, earlier) ((mem_before_iff split).mpr ⟨smaller, isLine⟩)

theorem nodup_symbols_iff {items : List (List Char × Nat)}
    (sorted : items.Pairwise fun a b => a.2 < b.2) :
    (items.map fun item => symbolOf item.1).Nodup ↔
      ∀ a ∈ items, ∀ b ∈ items, b.2 < a.2 → symbolOf b.1 ≠ symbolOf a.1 := by
  constructor
  · intro distinct a memA b memB smaller same
    obtain rfl := List.inj_on_of_nodup_map distinct memB memA same
    exact Nat.lt_irrefl _ smaller
  · intro apart
    exact List.pairwise_map.mpr
      (sorted.imp_of_mem fun memA memB smaller => apart _ memB _ memA smaller)

theorem firstLine_repeats_iff :
    FirstLine content (Repeats content) number line ↔
      ∃ before behind, rowLines content = before ++ (line, number) :: behind ∧
        symbolOf line ∈ before.map (fun item => symbolOf item.1) ∧
        (before.map fun item => symbolOf item.1).Nodup := by
  rw [firstLine_iff]
  refine exists_congr fun before => exists_congr fun behind => and_congr_right fun split => ?_
  have sorted : before.Pairwise fun a b => a.2 < b.2 :=
    (List.pairwise_append.mp (split ▸ pairwise_rowLines content)).1
  rw [nodup_symbols_iff sorted, List.mem_map]
  refine and_congr ?_ (forall₂_congr fun a mem => ?_)
  · constructor
    · rintro ⟨earlier, smaller, other, isLine, same⟩
      exact ⟨(other, earlier), (mem_before_iff split).mpr ⟨smaller, isLine⟩, same⟩
    · rintro ⟨item, mem, same⟩
      obtain ⟨smaller, isLine⟩ := (mem_before_iff split).mp mem
      exact ⟨item.2, smaller, item.1, isLine, same⟩
  · constructor
    · intro fresh b memB smaller same
      exact fresh ⟨b.2, smaller, b.1, ((mem_before_iff split).mp memB).2, same⟩
    · rintro apart ⟨earlier, smaller, other, isLine, same⟩
      have least := ((mem_before_iff split).mp mem).1
      exact apart (other, earlier)
        ((mem_before_iff split).mpr ⟨smaller.trans least, isLine⟩) smaller same

theorem repeated?_eq_some_iff {seen : List (List Char)} {made : List Row} {symbol : List Char}
    (distinct : seen.Nodup) :
    repeated? seen made = some symbol ↔
      ∃ before behind, made.map (·.symbol) = before ++ symbol :: behind ∧
        symbol ∈ before ++ seen ∧ (before ++ seen).Nodup := by
  induction made generalizing seen with
  | nil => exact iff_of_false nofun (by simp)
  | cons row made ih =>
      rw [repeated?]
      split
      case isTrue old =>
        constructor
        · rintro ⟨⟩
          exact ⟨[], _, rfl, old, distinct⟩
        · rintro ⟨before, behind, split, -, fresh⟩
          cases before with
          | nil => exact congrArg some (List.cons.inj split).1
          | cons first before =>
              obtain ⟨rfl, -⟩ := List.cons.inj split
              exact absurd (List.mem_append_right before old) (List.nodup_cons.mp fresh).1
      case isFalse fresh =>
        have middle (before : List (List Char)) :
            (before ++ row.symbol :: seen).Perm (row.symbol :: before ++ seen) :=
          List.perm_middle
        rw [ih (List.nodup_cons.mpr ⟨fresh, distinct⟩)]
        constructor
        · rintro ⟨before, behind, split, again, distinct⟩
          exact ⟨row.symbol :: before, behind, congrArg _ split, (middle before).mem_iff.mp again,
            (middle before).nodup_iff.mp distinct⟩
        · rintro ⟨before, behind, split, again, distinct⟩
          cases before with
          | nil =>
              obtain ⟨rfl, -⟩ := List.cons.inj split
              exact absurd again fresh
          | cons first before =>
              obtain ⟨rfl, others⟩ := List.cons.inj split
              exact ⟨before, behind, others, (middle before).mem_iff.mpr again,
                (middle before).nodup_iff.mpr distinct⟩

theorem Describes.symbolOf_eq {row : Row} (h : Describes line row) :
    symbolOf line = row.symbol := by
  obtain ⟨exponents, shape, -⟩ := h.fields
  rw [symbolOf, fieldsOf, shape, List.headD_cons]

theorem map_symbolOf {items : List (List Char × Nat)} {made : List Row}
    (h : List.Forall₂ (fun item row => Describes item.1 row) items made) :
    (items.map fun item => symbolOf item.1) = made.map (·.symbol) := by
  induction h with
  | nil => rfl
  | cons describes _ ih => rw [List.map_cons, List.map_cons, describes.symbolOf_eq, ih]

/-- What a table is refused for.  Only a table whose lines are all sound is searched for symbols
that it holds twice. -/
inductive Refused (content : List Char) : Fault → Prop
  | malformed {number : Nat} {line : List Char} {fault : Fault}
      (first : FirstLine content (fun _ line => ¬ WellFormed line) number line)
      (blames : Blames number line fault) : Refused content fault
  | duplicate {number : Nat} {line : List Char}
      (sound : ∀ number line, UnitLineAt content number line → WellFormed line)
      (first : FirstLine content (Repeats content) number line) :
      Refused content (.duplicate (symbolOf line))

structure Accepted (content : List Char) : Prop where
  sound : ∀ number line, UnitLineAt content number line → WellFormed line
  distinct : ∀ number line, UnitLineAt content number line → ¬ Repeats content number line

def readLine (item : List Char × Nat) : Except Fault Row :=
  row item.2 item.1

theorem exists_mapM_readLine_iff :
    (∃ made, (rowLines content).mapM readLine = .ok made) ↔
      ∀ number line, UnitLineAt content number line → WellFormed line := by
  rw [exists_mapM_eq_ok_iff]
  constructor
  · intro each number line isLine
    exact exists_row_eq_ok_iff.mp (each _ (mem_rowLines_iff.mpr isLine))
  · intro sound item mem
    exact exists_row_eq_ok_iff.mpr (sound _ _ (mem_rowLines_iff.mp mem))

theorem mapM_readLine_eq_error_iff :
    (rowLines content).mapM readLine = .error fault ↔
      ∃ number line, FirstLine content (fun _ line => ¬ WellFormed line) number line ∧
        Blames number line fault := by
  rw [mapM_eq_error_iff]
  constructor
  · rintro ⟨before, ⟨line, number⟩, behind, split, sound, failed⟩
    have blames := row_eq_error_iff.mp failed
    refine ⟨number, line, firstLine_iff.mpr ⟨before, behind, split, blames.not_wellFormed, ?_⟩,
      blames⟩
    exact fun item mem => not_not_intro (exists_row_eq_ok_iff.mp (sound item mem))
  · rintro ⟨number, line, first, blames⟩
    obtain ⟨before, behind, split, -, sound⟩ := firstLine_iff.mp first
    refine ⟨before, (line, number), behind, split, fun item mem => ?_, row_eq_error_iff.mpr blames⟩
    exact exists_row_eq_ok_iff.mpr (not_not.mp (sound item mem))

theorem map_symbolOf_rowLines {made : List Row}
    (read : (rowLines content).mapM readLine = .ok made) :
    ((rowLines content).map fun item => symbolOf item.1) = made.map (·.symbol) :=
  map_symbolOf ((forall₂_of_mapM read).imp fun _ _ => describes_of_row)

theorem repeated?_of_mapM {made : List Row} {symbol : List Char}
    (read : (rowLines content).mapM readLine = .ok made) :
    repeated? [] made = some symbol ↔
      ∃ number line, FirstLine content (Repeats content) number line ∧ symbolOf line = symbol := by
  rw [repeated?_eq_some_iff List.nodup_nil, ← map_symbolOf_rowLines read]
  simp only [List.append_nil]
  constructor
  · rintro ⟨before, behind, symbols, again, distinct⟩
    obtain ⟨front, rest, split, rfl, others⟩ := List.map_eq_append_iff.mp symbols
    obtain ⟨⟨line, number⟩, back, rfl, rfl, -⟩ := List.map_eq_cons_iff.mp others
    exact ⟨number, line, firstLine_repeats_iff.mpr ⟨front, back, split, again, distinct⟩, rfl⟩
  · rintro ⟨number, line, first, rfl⟩
    obtain ⟨before, behind, split, again, distinct⟩ := firstLine_repeats_iff.mp first
    refine ⟨_, behind.map fun item => symbolOf item.1, ?_, again, distinct⟩
    rw [split, List.map_append, List.map_cons]

theorem rows_eq_error_iff : rows content = .error fault ↔ Refused content fault := by
  constructor
  · intro failed
    obtain failed | ⟨made, read, failed⟩ := bind_eq_error_iff.mp failed
    · obtain ⟨number, line, first, blames⟩ := mapM_readLine_eq_error_iff.mp failed
      exact .malformed first blames
    · split at failed
      case h_1 found =>
        obtain rfl := Except.error.inj failed
        obtain ⟨number, line, first, rfl⟩ := (repeated?_of_mapM read).mp found
        exact .duplicate (exists_mapM_readLine_iff.mp ⟨made, read⟩) first
      case h_2 => contradiction
  · intro refused
    cases refused with
    | malformed first blames =>
        exact bind_eq_error_iff.mpr (.inl (mapM_readLine_eq_error_iff.mpr ⟨_, _, first, blames⟩))
    | duplicate sound first =>
        obtain ⟨made, read⟩ := exists_mapM_readLine_iff.mpr sound
        refine bind_eq_error_iff.mpr (.inr ⟨made, read, ?_⟩)
        rw [(repeated?_of_mapM read).mpr ⟨_, _, first, rfl⟩]

theorem Accepted.not_refused (accepted : Accepted content) : ¬ Refused content fault := by
  intro refused
  cases refused with
  | malformed first => exact first.has (accepted.sound _ _ first.isLine)
  | duplicate _ first => exact accepted.distinct _ _ first.isLine first.has

theorem accepted_of_rows {made : List Row} (h : rows content = .ok made) : Accepted content := by
  obtain ⟨made, read, h⟩ := bind_eq_ok_iff.mp h
  split at h
  case h_1 => contradiction
  case h_2 none =>
    have distinct := (nodup_of_repeated? none).1
    rw [← map_symbolOf_rowLines read, nodup_symbols_iff (pairwise_rowLines content)] at distinct
    refine ⟨exists_mapM_readLine_iff.mp ⟨made, read⟩, ?_⟩
    rintro number line isLine ⟨earlier, smaller, other, isOther, same⟩
    exact distinct _ (mem_rowLines_iff.mpr isLine) _ (mem_rowLines_iff.mpr isOther) smaller same

theorem exists_rows_eq_ok_iff : (∃ made, rows content = .ok made) ↔ Accepted content := by
  constructor
  · rintro ⟨made, read⟩
    exact accepted_of_rows read
  · intro accepted
    cases read : rows content with
    | ok made => exact ⟨made, rfl⟩
    | error fault => exact absurd (rows_eq_error_iff.mp read) accepted.not_refused

/-- The lines that hold units, in the order of their numbers. -/
structure Numbers (content : List Char) (lines : List (List Char × Nat)) : Prop where
  sorted : lines.Pairwise fun a b => a.2 < b.2
  mem_iff : ∀ line number, (line, number) ∈ lines ↔ UnitLineAt content number line

theorem exists_described {made : List Row} (h : rows content = .ok made) :
    ∃ lines, Numbers content lines ∧
      List.Forall₂ (fun item row => Describes item.1 row) lines made := by
  refine ⟨rowLines content, ⟨pairwise_rowLines content, fun _ _ => mem_rowLines_iff⟩, ?_⟩
  have described := (describes_of_rows h).1
  rwa [← map_rowLines, List.forall₂_map_left_iff] at described

theorem generate_eq_error_iff {content : String} :
    generate (some content) = .error fault ↔ Refused content.toList fault := by
  rw [← rows_eq_error_iff]
  refine bind_eq_error_iff.trans (or_iff_left ?_)
  rintro ⟨made, -, failed⟩
  cases failed

theorem exists_generate_eq_ok_iff {content : String} :
    (∃ out, generate (some content) = .ok out) ↔ Accepted content.toList := by
  rw [← exists_rows_eq_ok_iff]
  constructor
  · rintro ⟨out, generated⟩
    obtain ⟨made, read, -⟩ := bind_eq_ok_iff.mp generated
    exact ⟨made, read⟩
  · rintro ⟨made, read⟩
    exact ⟨_, bind_eq_ok_iff.mpr ⟨made, read, rfl⟩⟩

/-- What becomes of a table: the rows of its lines if it is accepted, and else a complaint, which
starts with the number of a line unless all lines are sound. -/
structure Judges (content : String) : Prop where
  accepts_iff : (∃ out, generate (some content) = .ok out) ↔ Accepted content.toList
  describes : ∀ out, generate (some content) = .ok out →
    ∃ lines made, Numbers content.toList lines ∧
      List.Forall₂ (fun item row => Describes item.1 row) lines made ∧
      rows content.toList = .ok made ∧ out = String.ofList (text made)
  refuses_iff : ∀ fault, generate (some content) = .error fault ↔ Refused content.toList fault
  places : ∀ number line, FirstLine content.toList (fun _ line => ¬ WellFormed line) number line →
    ∃ fault detail, generate (some content) = .error fault ∧
      fault.message = "units.csv:" ++ toString number ++ ": " ++ detail

theorem judges (content : String) : Judges content where
  accepts_iff := exists_generate_eq_ok_iff
  describes out generated := by
    obtain ⟨made, read, generated⟩ := bind_eq_ok_iff.mp generated
    obtain ⟨lines, numbers, described⟩ := exists_described read
    exact ⟨lines, made, numbers, described, read, (Except.ok.inj generated).symm⟩
  refuses_iff _ := generate_eq_error_iff
  places number line first := by
    obtain ⟨fault, blames⟩ := exists_blames_iff.mpr first.has
    obtain ⟨detail, message⟩ := blames.message
    exact ⟨fault, detail, generate_eq_error_iff.mpr (.malformed first blames), message⟩

-- The last line lacks columns and repeats a symbol, and the flag before it is none; the exponent
-- in front of that flag is found first.
example :
    generate (some ("# symbols\r\n\nm, metre, 1,0,0,0,0,0,0,0, 1.0, true\r\n" ++
      "s, second, 0,0,1,0,0,0,0,2147483648, 1.0, maybe\nm, metre")) =
        .error (.exponent 4 "2147483648".toList) := by
  decide +kernel

end Contents

end Dimensional.Units.Table
