import Dimensional.Proofs.Text.Lines
import Dimensional.Proofs.Text.Plain
import Dimensional.Proofs.Text.Quoted
import Dimensional.Proofs.Units.Registry
import Dimensional.Units.Table
import Mathlib.Data.List.Forall2
import Mathlib.Data.List.TakeWhile

/-!
Tables keep what they are read from: every line that is neither blank nor a comment becomes one
row, the text that is written spells these rows, and the registry that they build holds one unit for
each.
-/

namespace Dimensional.Units.Table

open Text
open Reader (bind_eq_ok_iff)

section Reading

/-- What stands on a line, field by field. -/
structure Describes (line : List Char) (row : Row) : Prop where
  fields : ∃ exponents : List (List Char),
    (splitAt ',' line).map trim =
        row.symbol :: row.name :: (exponents ++ [row.scale, boolText row.prefixable]) ∧
      exponents.map Number.int32? = row.exponents.toList.map some

theorem exponentField_eq_ok {line : Nat} {raw : List Char} {n : Int}
    (h : exponentField line raw = .ok n) : Number.int32? raw = some n := by
  unfold exponentField at h
  split at h
  case h_1 m found => rw [found, Except.ok.inj h]
  case h_2 => contradiction

theorem flagField_eq_ok {line : Nat} {raw : List Char} {flag : Bool}
    (h : flagField line raw = .ok flag) : raw = boolText flag := by
  unfold flagField at h
  split at h
  case isTrue raw => obtain rfl := Except.ok.inj h; exact raw
  case isFalse =>
    split at h
    case isTrue raw => obtain rfl := Except.ok.inj h; exact raw
    case isFalse => contradiction

theorem describes_of_row {number : Nat} {line : List Char} {read : Row}
    (h : row number line = .ok read) : Describes line read := by
  unfold row at h
  split at h
  case h_2 => contradiction
  case h_1 symbol name e₀ e₁ e₂ e₃ e₄ e₅ e₆ e₇ scale flag fields =>
    obtain ⟨n₀, read₀, h⟩ := bind_eq_ok_iff.mp h
    obtain ⟨n₁, read₁, h⟩ := bind_eq_ok_iff.mp h
    obtain ⟨n₂, read₂, h⟩ := bind_eq_ok_iff.mp h
    obtain ⟨n₃, read₃, h⟩ := bind_eq_ok_iff.mp h
    obtain ⟨n₄, read₄, h⟩ := bind_eq_ok_iff.mp h
    obtain ⟨n₅, read₅, h⟩ := bind_eq_ok_iff.mp h
    obtain ⟨n₆, read₆, h⟩ := bind_eq_ok_iff.mp h
    obtain ⟨n₇, read₇, h⟩ := bind_eq_ok_iff.mp h
    obtain ⟨prefixable, readFlag, h⟩ := bind_eq_ok_iff.mp h
    obtain rfl := Except.ok.inj h
    obtain rfl := flagField_eq_ok readFlag
    refine ⟨[e₀, e₁, e₂, e₃, e₄, e₅, e₆, e₇], fields, ?_⟩
    simp only [List.map_cons, List.map_nil, exponentField_eq_ok read₀, exponentField_eq_ok read₁,
      exponentField_eq_ok read₂, exponentField_eq_ok read₃, exponentField_eq_ok read₄,
      exponentField_eq_ok read₅, exponentField_eq_ok read₆, exponentField_eq_ok read₇]
    rfl

theorem forall₂_of_mapM {ε α β : Type} {f : α → Except ε β} {items : List α} {results : List β}
    (h : items.mapM f = .ok results) :
    List.Forall₂ (fun item result => f item = .ok result) items results := by
  induction items generalizing results with
  | nil =>
      obtain rfl := Except.ok.inj h
      exact .nil
  | cons item items ih =>
      rw [List.mapM_cons] at h
      obtain ⟨first, made, h⟩ := bind_eq_ok_iff.mp h
      obtain ⟨others, more, h⟩ := bind_eq_ok_iff.mp h
      obtain rfl := Except.ok.inj h
      exact .cons made (ih more)

theorem nodup_of_repeated? {seen : List (List Char)} {rows : List Row}
    (h : repeated? seen rows = none) :
    (rows.map (·.symbol)).Nodup ∧ ∀ row ∈ rows, row.symbol ∉ seen := by
  induction rows generalizing seen with
  | nil => exact ⟨List.nodup_nil, by simp⟩
  | cons row rows ih =>
      rw [repeated?] at h
      split at h
      case isTrue => contradiction
      case isFalse fresh =>
        obtain ⟨distinct, apart⟩ := ih h
        rw [List.map_cons, List.nodup_cons]
        refine ⟨⟨fun mem => ?_, distinct⟩, ?_⟩
        · obtain ⟨other, later, same⟩ := List.mem_map.mp mem
          exact apart other later (same ▸ List.mem_cons_self)
        · intro other mem
          rcases List.mem_cons.mp mem with rfl | later
          · exact fresh
          · exact fun old => apart other later (List.mem_cons_of_mem _ old)

/-- The lines that hold a unit: no blank ones, and no comments. -/
def unitLines (content : List Char) : List (List Char) :=
  ((splitAt '\n' content).map trim).filter fun line => line ≠ [] ∧ line.head? ≠ some '#'

theorem isRow_iff {line : List Char} : isRow line = true ↔ line ≠ [] ∧ line.head? ≠ some '#' := by
  cases line <;> simp [isRow]

theorem map_rowLines (content : List Char) :
    (rowLines content).map (·.1) = unitLines content := by
  have kept : (fun line : List Char => decide (line ≠ [] ∧ line.head? ≠ some '#')) = isRow :=
    funext fun line => Bool.eq_iff_iff.mpr (decide_eq_true_iff.trans isRow_iff.symm)
  calc (rowLines content).map (·.1)
      = (((splitAt '\n' content).map trim).zipIdx 1 |>.map (·.1)).filter isRow := by
        rw [List.filter_map, rowLines]
        rfl
    _ = unitLines content := by rw [List.zipIdx_map_fst, unitLines, kept]

theorem describes_of_rows {content : List Char} {made : List Row} (h : rows content = .ok made) :
    List.Forall₂ Describes (unitLines content) made ∧ (made.map (·.symbol)).Nodup := by
  obtain ⟨read, each, h⟩ := bind_eq_ok_iff.mp h
  split at h
  case h_1 => contradiction
  case h_2 distinct =>
    obtain rfl := Except.ok.inj h
    refine ⟨?_, (nodup_of_repeated? distinct).1⟩
    rw [← map_rowLines, List.forall₂_map_left_iff]
    exact (forall₂_of_mapM each).imp fun _ _ => describes_of_row

end Reading

/-! The constant as it is read again where it is included. -/

section Writing

def after? (label text : List Char) : Option (List Char) :=
  if label.isPrefixOf text then some (text.drop label.length) else none

/-- The elements of an array of integers, up to the bracket that closes it. -/
def exponents? (text : List Char) : Option (Vector Int 8) := do
  let exponents ← ((splitAt ',' text).map trim).mapM Number.int32?
  if h : exponents.toArray.size = 8 then some ⟨exponents.toArray, h⟩ else none

def flag? (text : List Char) : Option Bool :=
  if text = "true".toList then some true
  else if text = "false".toList then some false
  else none

def row? (text : List Char) : Option (Row × List Char) := do
  let text ← after? "    UnitRow \x7b\n        symbol: ".toList text
  let (symbol, text) ← Quoted.read? text
  let text ← after? ",\n        name: ".toList text
  let (name, text) ← Quoted.read? text
  let text ← after? ",\n        exponents: [".toList text
  let exponents ← exponents? (text.takeWhile (· != ']'))
  let text ← after? "],\n        scale: ".toList (text.dropWhile (· != ']'))
  let scale := text.takeWhile (· != ',')
  let text ← after? ",\n        prefixable: ".toList (text.dropWhile (· != ','))
  let prefixable ← flag? (text.takeWhile (· != ','))
  let text ← after? ",\n    \x7d,\n".toList (text.dropWhile (· != ','))
  some (⟨symbol, name, exponents, scale, prefixable⟩, text)

def rest? (text : List Char) : Option (List Row) :=
  if text = "]\n".toList then some []
  else
    match row? text with
    | some (row, behind) =>
        if behind.length < text.length then (rest? behind).map (row :: ·) else none
    | none => none
termination_by text.length

def rows? (text : List Char) : Option (List Row) := do
  rest? (← after? "// Auto-generated from units.csv\n&[\n".toList text)

theorem after?_append (label rest : List Char) : after? label (label ++ rest) = some rest := by
  rw [after?, if_pos (List.isPrefixOf_iff_prefix.mpr (List.prefix_append label rest)),
    List.drop_left]

variable {mark : Char} {front rest : List Char}

theorem ne_of_free (free : mark ∉ front) : ∀ c ∈ front, (c != mark) = true := by
  rintro c mem
  exact bne_iff_ne.mpr fun same => free (same ▸ mem)

theorem takeWhile_until (free : mark ∉ front) (start : rest.head? = some mark) :
    (front ++ rest).takeWhile (· != mark) = front := by
  obtain ⟨tail, rfl⟩ := List.head?_eq_some_iff.mp start
  rw [List.takeWhile_append_of_pos (ne_of_free free),
    List.takeWhile_cons_of_neg (by simp), List.append_nil]

theorem dropWhile_until (free : mark ∉ front) (start : rest.head? = some mark) :
    (front ++ rest).dropWhile (· != mark) = rest := by
  obtain ⟨tail, rfl⟩ := List.head?_eq_some_iff.mp start
  rw [List.dropWhile_append_of_pos (ne_of_free free),
    List.dropWhile_cons_of_neg (by simp)]

theorem flag?_boolText (b : Bool) : flag? (boolText b) = some b := by
  cases b <;> decide

theorem notMem_boolText (b : Bool) : ',' ∉ boolText b := by
  cases b <;> decide

/-- What the row of a line is sure of. -/
structure Row.Writable (row : Row) : Prop where
  scale : ',' ∉ row.scale
  exponents : ∀ n ∈ row.exponents.toList, Number.int32? (Number.intText n) = some n

/-- The characters of an integer are none of those that part integers. -/
structure IsSolid (c : Char) : Prop where
  blank : isBlank c = false
  comma : c ≠ ','
  bracket : c ≠ ']'

theorem isSolid_of_mem_intText {n : Int} {c : Char} (h : c ∈ Number.intText n) : IsSolid c := by
  have digit {d : Char} (h : d.isDigit = true) : IsSolid d :=
    ⟨isBlank_of_isDigit h, by rintro rfl; contradiction, by rintro rfl; contradiction⟩
  rw [Number.intText] at h
  split at h
  case isTrue =>
    rcases List.mem_cons.mp h with rfl | h
    · exact ⟨by decide, by decide, by decide⟩
    · exact digit (Number.isDigit_of_mem_natText h)
  case isFalse => exact digit (Number.isDigit_of_mem_natText h)

theorem trim_intText (n : Int) : trim (Number.intText n) = Number.intText n := by
  have solid : ∀ c ∈ Number.intText n, isBlank c = false :=
    fun _ mem => (isSolid_of_mem_intText mem).blank
  have start : trimStart (Number.intText n) = Number.intText n :=
    List.dropWhile_eq_self_iff.mpr fun _ => by simp [solid]
  have stop : (Number.intText n).reverse.dropWhile isBlank = (Number.intText n).reverse := by
    refine List.dropWhile_eq_self_iff.mpr fun _ => ?_
    rw [solid _ (List.mem_reverse.mp (List.getElem_mem _))]
    exact Bool.false_ne_true
  rw [trim, start, trimEnd, stop, List.reverse_reverse]

theorem splitAt_intercalate {first : List Char} {others : List (List Char)}
    (free : ∀ piece ∈ first :: others, ',' ∉ piece) :
    splitAt ',' ([',', ' '].intercalate (first :: others)) = first :: others.map (' ' :: ·) := by
  induction others generalizing first with
  | nil =>
      rw [List.intercalate_singleton, splitAt_of_notMem (free first List.mem_cons_self),
        List.map_nil]
  | cons next others ih =>
      have behind := ih fun piece mem => free piece (List.mem_cons_of_mem _ mem)
      have spaced (text : List Char) :
          first ++ [',', ' '] ++ text = first ++ ',' :: ' ' :: text := by
        simp
      rw [List.intercalate_cons_cons, spaced, splitAt_append,
        splitAt_of_notMem (free first List.mem_cons_self), splitAt, if_neg (by decide), behind]
      rfl

theorem isSolid_of_mem_intList {row : Row} {c : Char} (mem : c ∈ intList row.exponents) :
    IsSolid c ∨ c = ',' ∨ c = ' ' := by
  have each : ∀ c ∈ intList row.exponents, IsSolid c ∨ c = ',' ∨ c = ' ' := by
    refine forall_mem_intercalate (by simp) ?_
    rintro text mem c inside
    obtain ⟨n, -, rfl⟩ := List.mem_map.mp mem
    exact .inl (isSolid_of_mem_intText inside)
  exact each c mem

theorem notMem_intList (row : Row) : ']' ∉ intList row.exponents := by
  intro mem
  rcases isSolid_of_mem_intList mem with solid | other
  · exact solid.bracket rfl
  · exact absurd other (by decide)

theorem mapM_intText {exponents : List Int}
    (fits : ∀ n ∈ exponents, Number.int32? (Number.intText n) = some n) :
    (exponents.map Number.intText).mapM Number.int32? = some exponents := by
  induction exponents with
  | nil => rfl
  | cons n exponents ih =>
      rw [List.map_cons, List.mapM_cons, fits n List.mem_cons_self,
        ih fun m mem => fits m (List.mem_cons_of_mem _ mem)]
      rfl

theorem exponents?_intList {row : Row} (h : row.Writable) :
    exponents? (intList row.exponents) = some row.exponents := by
  obtain ⟨first, others, shape⟩ : ∃ first others, row.exponents.toList = first :: others := by
    refine List.exists_cons_of_ne_nil fun empty => ?_
    have size := row.exponents.length_toList
    rw [empty] at size
    contradiction
  have free : ∀ piece ∈ Number.intText first :: others.map Number.intText, ',' ∉ piece := by
    intro piece mem inside
    rw [← List.map_cons] at mem
    obtain ⟨n, -, rfl⟩ := List.mem_map.mp mem
    exact (isSolid_of_mem_intText inside).comma rfl
  have pieces : (splitAt ',' (intList row.exponents)).map trim =
      row.exponents.toList.map Number.intText := by
    rw [intList, shape, List.map_cons, splitAt_intercalate free, List.map_cons, trim_intText,
      List.map_map, List.map_map]
    refine congrArg _ (List.map_congr_left fun n _ => ?_)
    exact (congrArg trimEnd (trimStart_cons ' ' _)).trans (trim_intText n)
  rw [exponents?, pieces, mapM_intText h.exponents]
  simp [Vector.toList]

theorem row?_rowText {row : Row} (h : row.Writable) (rest : List Char) :
    row? (rowText row ++ rest) = some (row, rest) := by
  delta row? rowText
  simp only [List.append_assoc, Option.bind_eq_bind]
  rw [after?_append, Option.bind_some, read?_quote, Option.bind_some]
  rw [after?_append, Option.bind_some, read?_quote, Option.bind_some]
  rw [after?_append, Option.bind_some, takeWhile_until (notMem_intList row) rfl,
    exponents?_intList h, Option.bind_some, dropWhile_until (notMem_intList row) rfl]
  rw [after?_append, Option.bind_some, takeWhile_until h.scale rfl, dropWhile_until h.scale rfl]
  rw [after?_append, Option.bind_some, takeWhile_until (notMem_boolText _) rfl, flag?_boolText,
    Option.bind_some, dropWhile_until (notMem_boolText _) rfl]
  rw [after?_append, Option.bind_some]

theorem exists_rowText (row : Row) : ∃ tail, rowText row = ' ' :: tail := by
  refine List.head?_eq_some_iff.mp ?_
  delta rowText
  simp only [List.append_assoc]
  rfl

theorem rest?_flatMap {rows : List Row} (h : ∀ row ∈ rows, row.Writable) :
    rest? (rows.flatMap rowText ++ "]\n".toList) = some rows := by
  induction rows with
  | nil => rw [List.flatMap_nil, List.nil_append, rest?, if_pos rfl]
  | cons row rows ih =>
      have written := row?_rowText (h row List.mem_cons_self) (rows.flatMap rowText ++ "]\n".toList)
      have behind := ih fun other mem => h other (List.mem_cons_of_mem _ mem)
      obtain ⟨tail, shape⟩ := exists_rowText row
      have more : rowText row ++ (rows.flatMap rowText ++ "]\n".toList) ≠ "]\n".toList := by
        rw [shape]
        exact fun same => absurd (List.cons.inj same).1 (by decide)
      have shorter : (rows.flatMap rowText ++ "]\n".toList).length <
          (rowText row ++ (rows.flatMap rowText ++ "]\n".toList)).length := by
        have nonempty : 0 < (rowText row).length := shape ▸ Nat.succ_pos tail.length
        generalize rows.flatMap rowText ++ "]\n".toList = behind
        rw [List.length_append]
        omega
      rw [List.flatMap_cons, List.append_assoc, rest?, if_neg more, written]
      simp only [if_pos shorter, behind, Option.map_some]

theorem rows?_text {rows : List Row} (h : ∀ row ∈ rows, row.Writable) :
    rows? (text rows) = some rows := by
  delta rows? text
  rw [List.append_assoc, after?_append]
  exact rest?_flatMap h

theorem trim_sublist (text : List Char) : (trim text).Sublist text := by
  have stop (text : List Char) : (trimEnd text).Sublist text :=
    List.reverse_sublist.mp (by
      rw [trimEnd, List.reverse_reverse]
      exact List.dropWhile_sublist isBlank)
  exact (stop _).trans (List.dropWhile_sublist isBlank)

theorem Describes.exists_scale {line : List Char} {row : Row} (h : Describes line row) :
    ∃ piece ∈ splitAt ',' line, trim piece = row.scale := by
  obtain ⟨exponents, fields, -⟩ := h.fields
  have mem : row.scale ∈ (splitAt ',' line).map trim := by
    rw [fields]
    simp
  exact List.mem_map.mp mem

theorem Describes.writable {line : List Char} {row : Row} (h : Describes line row) :
    row.Writable := by
  obtain ⟨piece, isPiece, shape⟩ := h.exists_scale
  obtain ⟨exponents, -, read⟩ := h.fields
  constructor
  · exact fun inside => notMem_of_mem_splitAt isPiece ((trim_sublist piece).mem (shape ▸ inside))
  · intro n mem
    have found : some n ∈ exponents.map Number.int32? := by
      rw [read]
      exact List.mem_map_of_mem mem
    obtain ⟨raw, -, found⟩ := List.mem_map.mp found
    exact Number.int32?_intText found

theorem writable_of_described {lines : List (List Char)} {made : List Row}
    (h : List.Forall₂ Describes lines made) : ∀ row ∈ made, row.Writable := by
  induction h with
  | nil => exact fun _ => nofun
  | cons describes _ ih =>
      intro row mem
      rcases List.mem_cons.mp mem with rfl | mem
      · exact describes.writable
      · exact ih row mem

end Writing

section Registry

variable {value : List Char → Float} {made : List Row}

/-- What a row says of a unit in a given scale: the exponents, one for each base, and the scale. -/
structure Row.Measures (row : Row) (scale : Float) (m : Measure) : Prop where
  exponents : ∀ b, m.dimension.exponent b = (row.exponents.get b.index : Int)
  scale : m.scale = scale

theorem Row.measures_iff {row : Row} {scale : Float} {m : Measure} :
    row.Measures scale m ↔ ⟨.ofInts row.exponents, scale⟩ = m := by
  constructor
  · rintro ⟨exponents, rfl⟩
    have same : Dimension.ofInts row.exponents = m.dimension := by
      ext b
      rw [Dimension.exponent_ofInts, exponents]
      rfl
    rw [same]
  · rintro rfl
    exact ⟨Dimension.exponent_ofInts row.exponents, rfl⟩

/-- What a symbol means in a table: the unit of its own row, or else a prefix in front of the symbol
of a row that takes prefixes. -/
inductive Resolves (value : List Char → Float) (rows : List Row) : List Char → Measure → Prop
  | exact {row : Row} {m : Measure} (mem : row ∈ rows)
      (measures : row.Measures (value row.scale) m) : Resolves value rows row.symbol m
  | prefixed {row : Row} {head : Prefix} {m : Measure} (mem : row ∈ rows)
      (known : head ∈ Prefix.all) (nonempty : row.symbol ≠ []) (takes : row.prefixable = true)
      (free : ∀ other ∈ rows, other.symbol ≠ head.symbol :: row.symbol)
      (measures : row.Measures (head.multiplier * value row.scale) m) :
      Resolves value rows (head.symbol :: row.symbol) m

theorem map_symbol_entries (value : List Char → Float) (made : List Row) :
    (made.map (·.entry value)).map (·.symbol) = (made.map (·.symbol)).map String.ofList := by
  rw [List.map_map, List.map_map]
  rfl

theorem nodup_entries (distinct : (made.map (·.symbol)).Nodup) :
    ((made.map (·.entry value)).map (·.symbol)).Nodup := by
  rw [map_symbol_entries]
  exact distinct.map fun _ _ same => String.ofList_injective same

theorem entries_registry (distinct : (made.map (·.symbol)).Nodup) :
    (registry value made).entries = made.map (·.entry value) := by
  rw [registry, Registry.ofEntries_of_nodup (nodup_entries distinct)]

theorem find?_registry (distinct : (made.map (·.symbol)).Nodup) {symbol : List Char}
    {entry : Entry} :
    (registry value made).find? (String.ofList symbol) = some entry ↔
      ∃ row ∈ made, row.symbol = symbol ∧ row.entry value = entry := by
  have nodup : ((registry value made).entries.map (·.symbol)).Nodup := by
    rw [entries_registry distinct]
    exact nodup_entries distinct
  rw [Registry.find?_eq_some_iff nodup, entries_registry distinct, List.mem_map]
  constructor
  · rintro ⟨⟨row, mem, rfl⟩, same⟩
    exact ⟨row, mem, String.ofList_injective same, rfl⟩
  · rintro ⟨row, mem, rfl, rfl⟩
    exact ⟨⟨row, mem, rfl⟩, rfl⟩

theorem find?_of_mem (value : List Char → Float) (distinct : (made.map (·.symbol)).Nodup)
    {row : Row} (mem : row ∈ made) :
    (registry value made).find? (String.ofList row.symbol) = some (row.entry value) :=
  (find?_registry distinct).mpr ⟨row, mem, rfl, rfl⟩

theorem find?_registry_eq_none_iff (distinct : (made.map (·.symbol)).Nodup) {symbol : List Char} :
    (registry value made).find? (String.ofList symbol) = none ↔
      ∀ row ∈ made, row.symbol ≠ symbol := by
  rw [Option.eq_none_iff_forall_ne_some]
  constructor
  · intro missing row mem same
    exact missing _ ((find?_registry distinct).mpr ⟨row, mem, same, rfl⟩)
  · intro missing entry found
    obtain ⟨row, mem, same, -⟩ := (find?_registry distinct).mp found
    exact missing row mem same

theorem resolve_registry (distinct : (made.map (·.symbol)).Nodup) {symbol : List Char}
    {m : Measure} :
    (registry value made).resolve (String.ofList symbol) = some m ↔
      Resolves value made symbol m := by
  cases found : (registry value made).find? (String.ofList symbol) with
  | some entry =>
      obtain ⟨row, mem, rfl, rfl⟩ := (find?_registry distinct).mp found
      rw [Registry.resolve_of_find? found, Option.some_inj]
      constructor
      · intro same
        exact .exact mem (Row.measures_iff.mpr same)
      · intro h
        generalize shape : row.symbol = symbol at h
        cases h with
        | exact other measures =>
            rw [List.inj_on_of_nodup_map distinct other mem shape.symm] at measures
            exact Row.measures_iff.mp measures
        | prefixed _ _ _ _ free => exact absurd shape (free row mem)
  | none =>
      have missing := (find?_registry_eq_none_iff distinct).mp found
      rw [Registry.resolve_of_find?_eq_none found]
      constructor
      · rintro ⟨head, entry, split, same⟩
        obtain ⟨rest, shape, nonempty, known, foundRest, takes⟩ :=
          Registry.split?_eq_some_iff.mp split
        obtain ⟨row, mem, rfl, rfl⟩ := (find?_registry distinct).mp foundRest
        rw [String.toList_ofList] at shape
        subst shape
        exact .prefixed mem known nonempty takes missing (Row.measures_iff.mpr same.symm)
      · intro h
        cases h with
        | exact mem => exact absurd rfl (missing _ mem)
        | prefixed mem known nonempty takes free measures =>
            have foundRest := find?_of_mem value distinct mem
            exact ⟨_, _, Registry.split?_eq_some_iff.mpr
              ⟨_, String.toList_ofList, nonempty, known, foundRest, takes⟩,
              (Row.measures_iff.mp measures).symm⟩

/-- Nothing is lost between the lines of a table and the registry that they become. -/
structure Lossless (value : List Char → Float) (lines : List (List Char)) (rows : List Row)
    (built : Units.Registry) : Prop where
  described : List.Forall₂ Describes lines rows
  size : built.size = lines.length
  found : ∀ row ∈ rows, built.find? (String.ofList row.symbol) = some (row.entry value)
  resolved : ∀ symbol m,
    built.resolve (String.ofList symbol) = some m ↔ Resolves value rows symbol m
  parsed : ∀ row ∈ rows, row.symbol ≠ [] → (∀ c ∈ row.symbol, isAlphabetic c = true) →
    ∃ m, built.resolve (String.ofList row.symbol) = some m ∧
      built.parse (String.ofList row.symbol) = .ok m

theorem lossless_of_rows {content : List Char} (value : List Char → Float)
    (h : rows content = .ok made) :
    Lossless value (unitLines content) made (registry value made) := by
  obtain ⟨described, distinct⟩ := describes_of_rows h
  refine ⟨described, ?_, fun _ => find?_of_mem value distinct,
    fun _ _ => resolve_registry distinct, ?_⟩
  · rw [Units.Registry.size, entries_registry distinct, List.length_map, described.length_eq]
  · intro row mem nonempty letters
    have known := Registry.resolve_of_find? (find?_of_mem value distinct mem)
    refine ⟨_, known, Registry.parse_symbol ?_ ?_ known⟩
    all_goals rwa [String.toList_ofList]

theorem lossless_of_generate {content out : String} (value : List Char → Float)
    (h : generate (some content) = .ok out) :
    ∃ made, rows? out.toList = some made ∧
      Lossless value (unitLines content.toList) made (registry value made) := by
  obtain ⟨made, read, h⟩ := bind_eq_ok_iff.mp h
  obtain rfl := Except.ok.inj h
  have lossless := lossless_of_rows value read
  refine ⟨made, ?_, lossless⟩
  rw [String.toList_ofList]
  exact rows?_text (writable_of_described lossless.described)

def minuteTable : String :=
  "# symbol, name, exponents, scale, prefixable\n" ++
    "in , inch , 1,0,0,0, 0,0,0,0, 1.0, true\r\n\nmin,minute,0,0,+1,0,0,0,0,-0,60.0,false"

def minuteRows : List Row :=
  [⟨"in".toList, "inch".toList, .ofFn fun i => if i.val = 0 then 1 else 0, "1.0".toList, true⟩,
    ⟨"min".toList, "minute".toList, .ofFn fun i => if i.val = 2 then 1 else 0, "60.0".toList,
      false⟩]

def minuteScale (scale : List Char) : Float :=
  if scale = "60.0".toList then 60.0 else 1.0

/-- Here inches take prefixes, and `min` is a minute all the same. -/
theorem lossless_of_generate_minute :
    generate (some minuteTable) = .ok (String.ofList (text minuteRows)) ∧
      ∃ made, rows? (String.ofList (text minuteRows)).toList = some made ∧
        Lossless minuteScale (unitLines minuteTable.toList) made (registry minuteScale made) := by
  have read : rows minuteTable.toList = .ok minuteRows := by decide +kernel
  have accepted : generate (some minuteTable) = .ok (String.ofList (text minuteRows)) :=
    bind_eq_ok_iff.mpr ⟨minuteRows, read, rfl⟩
  exact ⟨accepted, lossless_of_generate minuteScale accepted⟩

end Registry

end Dimensional.Units.Table
