import Dimensional.Proofs.Units.Table

/-!
The text of a table determines the table.  Every row is laid out on seven lines, because none of its
fields can end a line: symbol and name are quoted, the numbers and the flag are plain, and a scale
was itself a field of a line.
-/

namespace Dimensional.Units.Table

open Text
open Reader (bind_eq_ok_iff)

/-- The lines of a row, without the characters that end them. -/
def Row.lines (row : Row) : List (List Char) :=
  ["    UnitRow \x7b".toList,
    "        symbol: ".toList ++ quote row.symbol ++ [','],
    "        name: ".toList ++ quote row.name ++ [','],
    "        exponents: [".toList ++ intList row.exponents ++ [']', ','],
    "        scale: ".toList ++ row.scale ++ [','],
    "        prefixable: ".toList ++ boolText row.prefixable ++ [','],
    "    \x7d,".toList]

def ended (line : List Char) : List Char :=
  line ++ ['\n']

/-- The text of a table, line by line. -/
def linesOf (made : List Row) : List (List Char) :=
  "// Auto-generated from units.csv".toList :: "&[".toList ::
    (made.flatMap Row.lines ++ ["]".toList])

section Text

theorem rowText_eq (row : Row) : rowText row = (row.lines.map ended).flatten := by
  have first : "    UnitRow \x7b\n        symbol: ".toList =
      "    UnitRow \x7b".toList ++ '\n' :: "        symbol: ".toList := by decide +kernel
  have second : ",\n        name: ".toList = ',' :: '\n' :: "        name: ".toList := by
    decide +kernel
  have third : ",\n        exponents: [".toList = ',' :: '\n' :: "        exponents: [".toList := by
    decide +kernel
  have fourth : "],\n        scale: ".toList = ']' :: ',' :: '\n' :: "        scale: ".toList := by
    decide +kernel
  have fifth : ",\n        prefixable: ".toList = ',' :: '\n' :: "        prefixable: ".toList := by
    decide +kernel
  have last : ",\n    \x7d,\n".toList = ',' :: '\n' :: ("    \x7d,".toList ++ ['\n']) := by
    decide +kernel
  delta rowText Row.lines
  rw [first, second, third, fourth, fifth, last]
  simp only [ended, List.map_cons, List.map_nil, List.flatten_cons, List.flatten_nil,
    List.append_assoc, List.cons_append, List.nil_append, List.append_nil]

theorem flatMap_rowText (made : List Row) :
    made.flatMap rowText = ((made.flatMap Row.lines).map ended).flatten := by
  induction made with
  | nil => rfl
  | cons row made ih =>
      rw [List.flatMap_cons, List.flatMap_cons, rowText_eq, ih, List.map_append,
        List.flatten_append]

theorem text_eq (made : List Row) : text made = ((linesOf made).map ended).flatten := by
  have heading : "// Auto-generated from units.csv\n&[\n".toList =
      ended "// Auto-generated from units.csv".toList ++ ended "&[".toList := by decide +kernel
  have closing : "]\n".toList = ended "]".toList := by decide +kernel
  delta text linesOf
  rw [heading, closing, flatMap_rowText]
  simp only [List.map_cons, List.map_append, List.map_nil, List.flatten_cons, List.flatten_append,
    List.flatten_nil, List.append_assoc, List.append_nil]

end Text

section Fields

variable {row : Row} {line : List Char} {lines : List (List Char)} {made : List Row}

theorem newline_notMem_quote (text : List Char) : '\n' ∉ quote text := by
  intro mem
  exact absurd (isVisible_of_mem_quote mem) (by decide)

theorem newline_notMem_intList (row : Row) : '\n' ∉ intList row.exponents := by
  intro mem
  rcases isSolid_of_mem_intList mem with solid | other
  · exact absurd solid.blank (by decide)
  · exact absurd other (by decide)

theorem newline_notMem_boolText (b : Bool) : '\n' ∉ boolText b := by
  cases b <;> decide

theorem newline_notMem_append {label value last : List Char} (inLabel : '\n' ∉ label)
    (inValue : '\n' ∉ value) (inLast : '\n' ∉ last) : '\n' ∉ label ++ value ++ last := by
  rw [List.mem_append, List.mem_append]
  exact not_or_intro (not_or_intro inLabel inValue) inLast

theorem newline_notMem_lines (oneLine : '\n' ∉ row.scale) : ∀ line ∈ row.lines, '\n' ∉ line := by
  delta Row.lines
  simp only [List.forall_mem_cons]
  refine ⟨by decide +kernel, ?_, ?_, ?_, ?_, ?_, by decide +kernel, by simp⟩
  · exact newline_notMem_append (by decide +kernel) (newline_notMem_quote _) (by decide)
  · exact newline_notMem_append (by decide +kernel) (newline_notMem_quote _) (by decide)
  · exact newline_notMem_append (by decide +kernel) (newline_notMem_intList row) (by decide)
  · exact newline_notMem_append (by decide +kernel) oneLine (by decide)
  · exact newline_notMem_append (by decide +kernel) (newline_notMem_boolText _) (by decide)

theorem Describes.newline_notMem_scale (described : Describes line row) (oneLine : '\n' ∉ line) :
    '\n' ∉ row.scale := by
  obtain ⟨piece, isPiece, shape⟩ := described.exists_scale
  intro mem
  exact oneLine (mem_of_mem_splitAt isPiece ((trim_sublist piece).mem (shape ▸ mem)))

theorem newline_notMem_unitLines {content : List Char} (mem : line ∈ unitLines content) :
    '\n' ∉ line := by
  obtain ⟨piece, isPiece, rfl⟩ := List.mem_map.mp (List.mem_of_mem_filter mem)
  exact fun inside => notMem_of_mem_splitAt isPiece ((trim_sublist piece).mem inside)

theorem newline_notMem_scales (described : List.Forall₂ Describes lines made)
    (oneLine : ∀ line ∈ lines, '\n' ∉ line) : ∀ row ∈ made, '\n' ∉ row.scale := by
  induction described with
  | nil => simp
  | cons first _ ih =>
      rw [List.forall_mem_cons] at oneLine ⊢
      exact ⟨first.newline_notMem_scale oneLine.1, ih oneLine.2⟩

theorem newline_notMem_linesOf (oneLine : ∀ row ∈ made, '\n' ∉ row.scale) :
    ∀ line ∈ linesOf made, '\n' ∉ line := by
  delta linesOf
  simp only [List.forall_mem_cons, List.forall_mem_append, List.forall_mem_flatMap]
  exact ⟨by decide +kernel, by decide +kernel,
    fun row mem => newline_notMem_lines (oneLine row mem), by decide +kernel, by simp⟩

theorem linesKept_text (oneLine : ∀ row ∈ made, '\n' ∉ row.scale) :
    linesKept (text made) = (linesOf made).map ended := by
  rw [text_eq]
  refine linesKept_flatten (areLines_of_closed ?_)
  rw [List.forall_mem_map]
  exact fun line mem => ⟨line, rfl, newline_notMem_linesOf oneLine line mem⟩

end Fields

section Layout

variable {α β : Type} {f : α → List β} {size : Nat} {items : List α}

theorem length_flatMap_blocks (same : ∀ item, (f item).length = size) (items : List α) :
    (items.flatMap f).length = size * items.length := by
  induction items with
  | nil => rfl
  | cons item items ih =>
      rw [List.flatMap_cons, List.length_append, same, ih, List.length_cons, Nat.mul_succ,
        Nat.add_comm]

theorem take_drop_flatMap_blocks (same : ∀ item, (f item).length = size) (rest : List β)
    {index : Nat} {item : α} (found : items[index]? = some item) :
    ((items.flatMap f ++ rest).drop (size * index)).take size = f item := by
  induction items generalizing index with
  | nil => simp at found
  | cons first items ih =>
      rw [List.flatMap_cons, List.append_assoc]
      cases index with
      | zero =>
          obtain rfl := Option.some.inj found
          rw [Nat.mul_zero, List.drop_zero, List.take_left' (same first)]
      | succ index =>
          have behind : size * (index + 1) = (f first).length + size * index := by
            rw [same, Nat.mul_succ, Nat.add_comm]
          rw [behind, List.drop_length_add_append, ih found]

/-- A text that holds these rows and nothing else.  Two lines stand above the rows, and one below
them. -/
structure LaidOut (out : List Char) (made : List Row) : Prop where
  read : rows? out = some made
  size : (linesKept out).length = 7 * made.length + 3
  block : ∀ index row, made[index]? = some row →
    ((linesKept out).drop (7 * index + 2)).take 7 = row.lines.map ended

variable {made : List Row}

theorem laidOut_text (writable : ∀ row ∈ made, row.Writable)
    (oneLine : ∀ row ∈ made, '\n' ∉ row.scale) : LaidOut (text made) made := by
  have lines : linesKept (text made) = ended "// Auto-generated from units.csv".toList ::
      ended "&[".toList :: (made.flatMap (·.lines.map ended) ++ [ended "]".toList]) := by
    rw [linesKept_text oneLine]
    delta linesOf
    rw [List.map_cons, List.map_cons, List.map_append, List.map_flatMap]
    rfl
  have seven (row : Row) : (row.lines.map ended).length = 7 := rfl
  refine ⟨rows?_text writable, ?_, ?_⟩
  · rw [lines, List.length_cons, List.length_cons, List.length_append,
      length_flatMap_blocks seven]
    rfl
  · intro index row found
    rw [lines, List.drop_succ_cons, List.drop_succ_cons, take_drop_flatMap_blocks seven _ found]

theorem generate_eq_ok_iff {content out : String} :
    generate (some content) = .ok out ↔
      ∃ made, rows content.toList = .ok made ∧ String.ofList (text made) = out := by
  constructor
  · intro h
    obtain ⟨made, read, h⟩ := bind_eq_ok_iff.mp h
    exact ⟨made, read, Except.ok.inj h⟩
  · rintro ⟨made, read, rfl⟩
    exact bind_eq_ok_iff.mpr ⟨made, read, rfl⟩

theorem laidOut_of_rows {content : List Char} (h : rows content = .ok made) :
    LaidOut (text made) made := by
  obtain ⟨described, -⟩ := describes_of_rows h
  exact laidOut_text (writable_of_described described)
    (newline_notMem_scales described fun _ => newline_notMem_unitLines)

/-- Two tables are the same text exactly if they were made from the same rows. -/
theorem generate_determines {content out : String} (h : generate (some content) = .ok out) :
    ∃ made, rows content.toList = .ok made ∧ LaidOut out.toList made ∧
      ∀ other otherOut otherMade, generate (some other) = .ok otherOut →
        rows other.toList = .ok otherMade → (otherOut = out ↔ otherMade = made) := by
  obtain ⟨made, read, rfl⟩ := generate_eq_ok_iff.mp h
  have laidOut : LaidOut (String.ofList (text made)).toList made := by
    rw [String.toList_ofList]
    exact laidOut_of_rows read
  refine ⟨made, read, laidOut, ?_⟩
  intro other otherOut otherMade accepted otherRead
  obtain ⟨same, again, rfl⟩ := generate_eq_ok_iff.mp accepted
  obtain rfl := Except.ok.inj (otherRead.symm.trans again)
  constructor
  · intro equal
    have texts : text otherMade = text made := String.ofList_injective equal
    exact Option.some.inj (((laidOut_of_rows otherRead).read.symm.trans
      (congrArg rows? texts)).trans (laidOut_of_rows read).read)
  · rintro rfl
    rfl

def markedTable : String :=
  "q\"\\, n\u0301\u2028x ,+1,0,0,0,0,0,0,-1,1\r0,false\n\"],\",0,0,0,0,0,0,0,0,\u2028\"\\,true"

def markedRows : List Row :=
  [⟨"q\"\\".toList, "n\u0301\u2028x".toList,
      .ofFn fun i => if i.val = 0 then 1 else if i.val = 7 then -1 else 0, "1\r0".toList, false⟩,
    ⟨"\"]".toList, "\"".toList, .ofFn fun _ => 0, "\"\\".toList, true⟩]

/-- Quotation marks, backslashes, marks that combine and other ends of lines change nothing. -/
theorem generate_determines_marked :
    generate (some markedTable) = .ok (String.ofList (text markedRows)) ∧
      ∃ made, rows markedTable.toList = .ok made ∧
        LaidOut (String.ofList (text markedRows)).toList made ∧
          ∀ other otherOut otherMade, generate (some other) = .ok otherOut →
            rows other.toList = .ok otherMade →
              (otherOut = String.ofList (text markedRows) ↔ otherMade = made) := by
  have read : rows markedTable.toList = .ok markedRows := by decide +kernel
  have accepted := generate_eq_ok_iff.mpr ⟨markedRows, read, rfl⟩
  exact ⟨accepted, generate_determines accepted⟩

end Layout

end Dimensional.Units.Table
