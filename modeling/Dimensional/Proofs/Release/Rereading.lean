import Dimensional.Proofs.Release.Manifest
import Dimensional.Proofs.Toml.Declaration

/-!
What a rewritten manifest declares.  The search for a line knows nothing of TOML; where it ends at
the line that declares the version, the new version is read from the new text.
-/

namespace Dimensional.Toml

open Text (isBlank)

variable {c : Char}

theorem isBare_of_isBlank (h : isBlank c = true) : Key.isBare c = false := by
  have apart {d : Char} (solid : isBlank d = false) : c ≠ d := by
    rintro rfl
    simp [h] at solid
  have letter : c.isAlpha = false := by
    rw [Bool.eq_false_iff]
    intro alpha
    have := Text.isAlphabetic_of_isBlank h
    rw [Text.isAlphabetic_of_isAlpha alpha] at this
    contradiction
  rw [Key.isBare, Char.isAlphanum, letter, Text.isDigit_of_isBlank h]
  simp [apart (d := '_') (by decide), apart (d := '-') (by decide)]

/-- A blank that is none in TOML begins no statement. -/
theorem Statement.read?_of_isBlank (blank : isBlank c = true) (gap : isGap c = false)
    (text : List Char) (statement : Statement) (rest : List Char) :
    Statement.read? (c :: text) ≠ some (some statement, rest) := by
  intro h
  by_cases nothing : IsNothing (c :: text).head?
  · rw [read?_nothing nothing] at h
    simp at h
  · have apart {d : Char} (solid : isBlank d = false) : c ≠ d := by
      rintro rfl
      simp [blank] at solid
    have start : skipGap (c :: text) = c :: text := List.dropWhile_cons_of_neg (by simp [gap])
    have noKey : Key.read? (c :: text) = none := by
      have noPart : Key.part? (c :: text) = none := by
        unfold Key.part?
        split
        case h_1 same => exact absurd (List.cons.inj same).1 (apart (by decide))
        case h_2 same => exact absurd (List.cons.inj same).1 (apart (by decide))
        case h_3 => simp [isBare_of_isBlank blank]
      rw [Key.read?, Key.parts?, start, noPart]
      rfl
    rw [read?_entry nothing (by simpa using apart (by decide)), Value.member?_eq, noKey] at h
    contradiction

/-- Only blanks of TOML stand in front of a statement. -/
theorem States.isGap_of_isBlank {blanks line behind : List Char} {statement : Statement}
    (blank : ∀ c ∈ blanks, isBlank c = true) (h : States (blanks ++ line) behind statement) :
    ∀ c ∈ blanks, isGap c = true := by
  obtain ⟨-, rest, read, -⟩ := h
  induction blanks with
  | nil => simp
  | cons c blanks ih =>
      rw [List.forall_mem_cons] at blank ⊢
      cases gap : isGap c with
      | true =>
          refine ⟨rfl, ih blank.2 ?_⟩
          rw [List.cons_append, List.cons_append, skipGap, List.dropWhile_cons_of_pos gap] at read
          exact read
      | false =>
          rw [List.cons_append, List.cons_append, skipGap,
            List.dropWhile_cons_of_neg (by simp [gap])] at read
          exact absurd read (Statement.read?_of_isBlank blank.1 gap _ _ _)

end Dimensional.Toml

namespace Dimensional.Release

open ProjectCall (IsVersion isVersionChar)
open Text (AreLines areLines_cons_iff areLines_linesKept flatten_linesKept linesKept)

namespace Heading

variable {key line value : List Char} {behind : List (List Char)}

/-- What ends a line ends the statement on it. -/
theorem endLine?_terminator (lines : AreLines (line :: behind)) :
    Toml.endLine? (terminator line ++ behind.flatten) = some behind.flatten := by
  obtain ⟨closed, -⟩ | ⟨unclosed, rfl⟩ := areLines_cons_iff.mp lines
  · obtain ⟨body, ending, -⟩ := closed_terminator closed
    obtain same | same | same := terminator_cases line
    · rw [same]
      rfl
    · rw [same]
      rfl
    · rw [same] at ending
      simp at ending
  · rw [terminator_of_unclosed unclosed]
    rfl

/-- The new line is an entry in the place of the old one. -/
theorem states_assignment {statement : Toml.Statement} (isKey : Toml.IsBareKey key)
    (nonempty : value ≠ []) (verbatim : ∀ c ∈ value, Toml.IsVerbatim c)
    (lines : AreLines (line :: behind)) (h : Toml.States line behind.flatten statement) :
    Toml.States (assignment key value line) behind.flatten
      (.entry [String.ofList key] (.string (String.ofList value))) := by
  rw [← indent_append_trimStart line] at h
  exact Toml.states_assignment (h.isGap_of_isBlank fun _ => isBlank_of_mem_indent) isKey nonempty
    verbatim (endLine?_terminator lines)

/-- The line that the search finds is the one on which the text declares the key. -/
def FindsDeclaration (heading : List String) (key : String) (text : List Char) : Prop :=
  ∃ before line behind, linesKept text = before ++ line :: behind ∧
    IsCut (".".intercalate heading).toList key.toList [] before line ∧
    ∃ old statements draft next,
      Toml.IsDeclaration heading key old text line behind.flatten statements draft next

theorem text?_of_replace {heading : List String} {key value : String} {text out : List Char}
    {old : String} (finds : FindsDeclaration heading key text) (named : heading ≠ [])
    (isKey : Toml.IsBareKey key.toList) (nonempty : value.toList ≠ [])
    (verbatim : ∀ c ∈ value.toList, Toml.IsVerbatim c)
    (declared : Toml.text? text (heading ++ [key]) = some old)
    (replaced : replace text (".".intercalate heading).toList key.toList value.toList = some out) :
    Toml.text? out (heading ++ [key]) = some value := by
  obtain ⟨before, line, behind, shape, cut, old, statements, draft, next, declares⟩ := finds
  have out_ : out = (before ++ assignment key.toList value.toList line :: behind).flatten :=
    Option.some.inj (replaced.symm.trans
      (replace_eq_some_iff.mpr ⟨before, line, behind, shape, cut, rfl⟩))
  have text_ : text = before.flatten ++ (line ++ behind.flatten) := by
    rw [← flatten_linesKept text, shape, List.flatten_append, List.flatten_cons]
  have lines : AreLines (line :: behind) := (shape ▸ areLines_linesKept text).of_append
  have states := states_assignment isKey nonempty verbatim lines declares.states
  obtain ⟨root, valid, -⟩ := Option.bind_eq_some_iff.mp declared
  rw [String.ofList_toList, String.ofList_toList] at states
  rw [out_, List.flatten_append, List.flatten_cons]
  rw [text_] at declares valid
  exact declares.text?_exchange named valid states

end Heading

namespace Package

variable {package : Package} {text version new current : String}

theorem isBareKey_version : Toml.IsBareKey "version".toList where
  nonempty := by decide
  bare := List.all_eq_true.mp (by decide)

theorem isVerbatim_of_isVersionChar {c : Char} (h : isVersionChar c = true) :
    Toml.IsVerbatim c := by
  obtain digit | rfl := ProjectCall.isVersionChar_cases h
  · have small := Text.toNat_lt_of_isDigit digit
    revert digit
    exact Text.of_ascii (P := fun c => c.isDigit = true →
      Toml.isPlain c = true ∧ c ≠ '"' ∧ c ≠ '\\') small (by decide +kernel)
  · exact ⟨by decide, by decide, by decide⟩

/-- A search in the text leads to the declaration of the version; one for a CMake call always
does. -/
def FindsDeclaration (package : Package) (text : String) : Prop :=
  ∀ heading, package.heading? = some heading →
    Heading.FindsDeclaration heading "version" text.toList

/-- The declaration may be indented, and a remark may follow it. -/
def plainManifest : String :=
  "[project]\n  version = \"0.1.0\" # the first\n"

theorem findsDeclaration_plainManifest : python.FindsDeclaration plainManifest := by
  rintro heading shape
  obtain rfl := Option.some.inj shape
  refine ⟨["[project]\n".toList], "  version = \"0.1.0\" # the first\n".toList, [], by decide, ?_,
    "0.1.0", [.header ["project"]], ⟨[("project", .table .explicit [])], ["project"]⟩,
    ⟨[("project", .table .explicit [("version", .string "0.1.0")])], ["project"]⟩, ?_⟩
  · rw [Heading.isCut_cons_iff, Heading.isCut_nil_iff]
    unfold Heading.IsTarget
    decide +kernel
  · have header : Toml.States "[project]\n".toList "  version = \"0.1.0\" # the first\n".toList
        (.header ["project"]) := by
      have shape : Toml.skipGap ("[project]\n".toList ++
          "  version = \"0.1.0\" # the first\n".toList) =
            '[' :: "project]\n  version = \"0.1.0\" # the first\n".toList := by decide
      have key : Toml.Key.read? "project]\n  version = \"0.1.0\" # the first\n".toList =
          some (["project"], ']' :: "\n  version = \"0.1.0\" # the first\n".toList) := by
        decide +kernel
      refine ⟨by decide, "\n  version = \"0.1.0\" # the first\n".toList, ?_, by decide +kernel⟩
      rw [shape, Toml.Statement.read?_header (by decide), key, Option.bind_some]
      exact Toml.expect?_cons ..
    have gaps : ∀ c ∈ [' ', ' '], Toml.isGap c = true := List.all_eq_true.mp (by decide)
    have verbatim : ∀ c ∈ "0.1.0".toList, Toml.IsVerbatim c := fun c mem =>
      isVerbatim_of_isVersionChar (List.all_eq_true.mp (by decide) c mem)
    have entry := @Toml.states_assignment [] [' ', ' '] "version".toList "0.1.0".toList
      " # the first\n".toList gaps isBareKey_version (by decide) verbatim (by decide +kernel)
    exact ⟨header.passes, rfl, rfl, entry, rfl, rfl⟩

/-- Where the search leads to the declaration, what is written is read again. -/
theorem readVersion?_writeVersion? (finds : package.FindsDeclaration text)
    (isVersion : IsVersion version.toList) (declared : package.readVersion? text = some current)
    (written : package.writeVersion? text version = some new) :
    package.readVersion? new = some version := by
  cases shape : package.heading? with
  | some heading =>
      have named : heading ≠ [] := by
        rintro rfl
        cases package <;> simp [heading?] at shape
      rw [readVersion?_of_heading shape] at declared ⊢
      rw [writeVersion?_of_heading shape] at written
      obtain ⟨out, replaced, rfl⟩ := Option.map_eq_some_iff.mp written
      rw [String.toList_ofList]
      exact Heading.text?_of_replace (finds heading shape) named isBareKey_version
        isVersion.ne_nil (fun c mem => isVerbatim_of_isVersionChar (isVersion.chars c mem))
        declared replaced
  | none =>
      obtain rfl : package = cpp := by
        cases package <;> first | rfl | simp [heading?] at shape
      exact readVersion?_writeVersion?_cpp isVersion written

end Package

end Dimensional.Release
