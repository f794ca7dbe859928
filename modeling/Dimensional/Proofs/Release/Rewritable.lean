import Dimensional.Proofs.Release.Check
import Dimensional.Proofs.Release.KeyLine
import Dimensional.Proofs.Toml.Origin

/-!
Which manifests can be rewritten.  Reading knows all of TOML, and rewriting knows lines; a version
that is read can be replaced exactly if some line shows it, and a check stops where none does.  What
is read and not shown stands on the line of its statement otherwise than the search expects.
-/

namespace Dimensional.Release

namespace Heading

open Text (linesKept)

variable {heading : List String} {key value : String} {text : List Char}

/-- Some line assigns the key below a line that starts the section, as a search for lines sees
them. -/
def Shows (heading : List String) (key : String) (text : List Char) : Prop :=
  ∃ before line behind, linesKept text = before ++ line :: behind ∧
    Holds (".".intercalate heading).toList before ∧ Assigns key.toList line

/-- Why no line shows a string that a document holds: what stands otherwise than on a line of its
own, plainly spelled. -/
inductive Hides (heading : List String) (key value : String) (text : List Char) : Prop
  /-- A byte order mark stands in front of the line that starts the section. -/
  | mark {rest : List Char} (marked : text = '\ufeff' :: rest) (shows : Shows heading key rest)
  /-- The entry has a dotted key, or a table in braces for its value. -/
  | entry (origin : Toml.Origin (Toml.dropMark text) (heading ++ [key]) value)
      (other : ¬(origin.header = heading ∧ origin.statement = .entry [key] (.string value)))
  /-- The key stands in quotes. -/
  | key (origin : Toml.Origin (Toml.dropMark text) (heading ++ [key]) value)
      (below : origin.header = heading) (entry : origin.statement = .entry [key] (.string value))
      (quoted : ¬Assigns key.toList origin.line)
  /-- The header stands in two pairs of brackets, a remark follows it, or its parts have quotes or
  blanks around them. -/
  | header (origin : Toml.Origin (Toml.dropMark text) (heading ++ [key]) value)
      (below : origin.header = heading) (opening : origin.Opening)
      (unnamed : ¬(StartsSection opening.start ∧
        Names opening.start (".".intercalate heading).toList))
  /-- In a value on several lines, one of them begins with a bracket. -/
  | between (origin : Toml.Origin (Toml.dropMark text) (heading ++ [key]) value)
      (below : origin.header = heading) (opening : origin.Opening) {line : List Char}
      (mem : line ∈ opening.later) (starts : StartsSection line)

theorem dropMark_cases (text : List Char) :
    Toml.dropMark text = text ∨ text = '\ufeff' :: Toml.dropMark text := by
  unfold Toml.dropMark
  split
  · exact .inr rfl
  · exact .inl rfl

/-- Below a header and on a line that are spelled plainly, with no bracket at the front of a line
between them, the search sees what the document holds. -/
theorem shows_of_origin {text : List Char} {path : List String}
    (origin : Toml.Origin text path value) (opening : origin.Opening)
    (named : StartsSection opening.start ∧ Names opening.start (".".intercalate heading).toList)
    (last : ∀ line ∈ opening.later, ¬StartsSection line) (plain : Assigns key.toList origin.line) :
    Shows heading key text :=
  ⟨origin.before, origin.line, origin.behind, origin.begins.lines,
    ⟨opening.earlier, opening.start, opening.later, opening.lines, named.1, named.2, last⟩, plain⟩

theorem hides_of_not_shows (nonempty : heading ≠ [])
    (declared : Toml.text? text (heading ++ [key]) = some value)
    (hidden : ¬Shows heading key text) : Hides heading key value text := by
  by_cases unmarked : Shows heading key (Toml.dropMark text)
  · obtain same | marked := dropMark_cases text
    · rw [same] at unmarked
      exact absurd unmarked hidden
    · exact .mark marked unmarked
  · obtain ⟨origin⟩ := Toml.nonempty_origin declared
    by_cases entry : origin.header = heading ∧ origin.statement = .entry [key] (.string value)
    · obtain ⟨below, entry⟩ := entry
      obtain ⟨opening⟩ := origin.nonempty_opening (by rwa [below])
      by_cases plain : Assigns key.toList origin.line
      · by_cases named : StartsSection opening.start ∧
          Names opening.start (".".intercalate heading).toList
        · by_cases interrupted : ∃ line ∈ opening.later, StartsSection line
          · obtain ⟨line, mem, starts⟩ := interrupted
            exact .between origin below opening mem starts
          · have last (line : List Char) (mem : line ∈ opening.later) : ¬StartsSection line :=
              fun starts => interrupted ⟨line, mem, starts⟩
            exact absurd (shows_of_origin origin opening named last plain) unmarked
        · exact .header origin below opening named
      · exact .key origin below entry plain
    · exact .entry origin entry

end Heading

namespace Package

variable {package : Package} {heading : List String} {text current version : String}

/-- In a manifest in TOML, some line shows the version. -/
def ShowsVersion (package : Package) (text : String) : Prop :=
  ∀ heading, package.heading? = some heading → Heading.Shows heading "version" text.toList

theorem isKey_heading (h : package.heading? = some heading) :
    Heading.IsKey (".".intercalate heading).toList := by
  cases package with
  | rust =>
      obtain rfl := Option.some.inj h
      exact .of_all (by decide +kernel) (by decide +kernel)
  | python =>
      obtain rfl := Option.some.inj h
      exact .of_all (by decide +kernel) (by decide +kernel)
  | cpp => contradiction

theorem isSome_writeVersion?_iff_shows (shape : package.heading? = some heading)
    (text version : String) :
    (package.writeVersion? text version).isSome = true ↔
      Heading.Shows heading "version" text.toList := by
  rw [writeVersion?_of_heading shape, Option.isSome_map, ← Option.ne_none_iff_isSome, Ne,
    Heading.replace_eq_none_iff (isKey_heading shape) isKey_version, not_not]
  exact Iff.rfl

theorem isSome_writeVersion?_of_call (shape : package.heading? = none)
    (declared : package.readVersion? text = some current) (version : String) :
    (package.writeVersion? text version).isSome = true := by
  rw [readVersion?, shape] at declared
  rw [writeVersion?_of_none shape, Option.isSome_map]
  exact Option.isSome_of_eq_some (Option.map_eq_some_iff.mp declared).choose_spec.1

theorem isSome_writeVersion?_iff (declared : package.readVersion? text = some current)
    (version : String) :
    (package.writeVersion? text version).isSome = true ↔ package.ShowsVersion text := by
  cases shape : package.heading? with
  | some heading =>
      rw [isSome_writeVersion?_iff_shows shape]
      constructor
      · rintro shows other same
        obtain rfl := Option.some.inj (shape.symm.trans same)
        exact shows
      · exact fun shows => shows heading shape
  | none =>
      refine iff_of_true (isSome_writeVersion?_of_call shape declared version) ?_
      intro heading same
      rw [shape] at same
      contradiction

theorem heading_ne_nil (shape : package.heading? = some heading) : heading ≠ [] := by
  rintro rfl
  cases package <;> simp [heading?] at shape

/-- A version that is read, and that no line shows, has an origin that is spelled otherwise. -/
theorem hides_of_readVersion? (shape : package.heading? = some heading)
    (declared : package.readVersion? text = some current)
    (hidden : ¬Heading.Shows heading "version" text.toList) :
    Heading.Hides heading "version" current text.toList := by
  rw [readVersion?_of_heading shape] at declared
  exact Heading.hides_of_not_shows (heading_ne_nil shape) declared hidden

end Package

section Check

variable {root : String} {versions : Versions} {package : Package} {dryRun published : Bool}
  {registry : Registry} {files : Files} {text current wanted path : String} {problem : Problem}

/-- The one way in which a manifest that was read cannot be settled. -/
theorem settle_eq_error_iff :
    settle package dryRun path text current wanted published files = .error problem ↔
      current ≠ wanted ∧ dryRun = false ∧ published = false ∧
        package.writeVersion? text wanted = none ∧ problem = .noVersion path .write := by
  rw [settle]
  split
  case isTrue same => simp [same]
  case isFalse differs =>
    split
    case isTrue dry => simp [dry]
    case isFalse notDry =>
      split
      case isTrue listed => simp [listed]
      case isFalse unlisted =>
        split
        case h_1 missing => simp_all [eq_comm]
        case h_2 new written => simp [written]

theorem result_check_of_inspects
    (h : Inspects root versions package registry files text current wanted published) :
    (check root versions package dryRun registry files).result =
      (settle package dryRun (Files.join root package.manifest) text current wanted published
        files).map fun settled => ⟨package, current, wanted, published, settled.1⟩ := by
  rw [check, h.wants]
  dsimp only
  rw [h.read]
  dsimp only
  rw [h.declares]
  dsimp only
  rw [h.answers]
  dsimp only
  split
  case h_1 problem failed =>
    rw [failed]
    rfl
  case h_2 action changed settled =>
    rw [settled]
    rfl

/-- Only a check that has read a version complains that it cannot be rewritten. -/
theorem inspects_of_noVersion
    (h : (check root versions package dryRun registry files).result =
      .error (.noVersion path .write)) :
    ∃ text current wanted published,
      Inspects root versions package registry files text current wanted published := by
  rw [check] at h
  split at h
  case h_1 => simp [Outcome.stopped] at h
  case h_2 wanted wants =>
    dsimp only at h
    split at h
    case h_1 => simp [Outcome.stopped] at h
    case h_2 text read =>
      split at h
      case h_1 => simp [Outcome.stopped] at h
      case h_2 current declares =>
        split at h
        case h_1 => simp [Outcome.stopped] at h
        case h_2 published answers =>
          exact ⟨text, current, wanted, published, wants, read, declares, answers⟩

theorem result_check_eq_noVersion_iff :
    (check root versions package dryRun registry files).result =
        .error (.noVersion path .write) ↔
      path = Files.join root package.manifest ∧ ∃ text current wanted,
        Inspects root versions package registry files text current wanted false ∧
          current ≠ wanted ∧ dryRun = false ∧ ¬package.ShowsVersion text := by
  constructor
  · intro h
    obtain ⟨text, current, wanted, published, inspects⟩ := inspects_of_noVersion h
    rw [result_check_of_inspects inspects] at h
    cases settled : settle package dryRun (Files.join root package.manifest) text current wanted
      published files with
    | ok change =>
        rw [settled] at h
        contradiction
    | error problem =>
        rw [settled] at h
        obtain rfl := Except.error.inj h
        obtain ⟨differs, notDry, rfl, missing, same⟩ := settle_eq_error_iff.mp settled
        obtain ⟨rfl, -⟩ := Problem.noVersion.inj same
        refine ⟨rfl, text, current, wanted, inspects, differs, notDry, ?_⟩
        rw [← Package.isSome_writeVersion?_iff inspects.declares wanted, missing]
        exact Bool.false_ne_true
  · rintro ⟨rfl, text, current, wanted, inspects, differs, notDry, hidden⟩
    have missing : package.writeVersion? text wanted = none := by
      rwa [← Package.isSome_writeVersion?_iff inspects.declares wanted,
        Option.not_isSome_iff_eq_none] at hidden
    rw [result_check_of_inspects inspects,
      settle_eq_error_iff.mpr ⟨differs, notDry, rfl, missing, rfl⟩]
    rfl

/-- What becomes of the manifests of a package when they are to be rewritten. -/
structure Rewritable (package : Package) : Prop where
  /-- The search for a line replaces what some line shows, and nothing else. -/
  shown : ∀ heading, package.heading? = some heading → ∀ text version,
    ((package.writeVersion? text version).isSome = true ↔
      Heading.Shows heading "version" text.toList)
  /-- A version that is read and not shown is spelled in one of a few ways. -/
  hidden : ∀ heading, package.heading? = some heading → ∀ text current,
    package.readVersion? text = some current → ¬Heading.Shows heading "version" text.toList →
      Heading.Hides heading "version" current text.toList
  /-- What is read in a call is replaced there. -/
  called : package.heading? = none → ∀ text current version,
    package.readVersion? text = some current → (package.writeVersion? text version).isSome = true
  /-- A check complains of a version that cannot be rewritten exactly where it may write another one
  and no line shows the one that is there. -/
  stopped : ∀ root versions dryRun registry files path,
    (check root versions package dryRun registry files).result =
        .error (.noVersion path .write) ↔
      path = Files.join root package.manifest ∧ ∃ text current wanted,
        Inspects root versions package registry files text current wanted false ∧
          current ≠ wanted ∧ dryRun = false ∧ ¬package.ShowsVersion text

theorem rewritable (package : Package) : Rewritable package where
  shown _ shape := Package.isSome_writeVersion?_iff_shows shape
  hidden _ shape _ _ := Package.hides_of_readVersion? shape
  called shape _ _ version declared :=
    Package.isSome_writeVersion?_of_call shape declared version
  stopped _ _ _ _ _ _ := result_check_eq_noVersion_iff

/-- Blanks within the brackets, and an indented line with a remark, are seen. -/
theorem rewritable_indented :
    Heading.Shows ["project"] "version"
      "[ project ]\r\n\tversion= '0.1.0' # first\r\n".toList :=
  ((rewritable .python).shown ["project"] rfl _ "0.2.0").mp (by decide +kernel)

/-- A remark behind the header hides the version, and so does each of the other ways to spell it. -/
theorem writeVersion?_remark :
    Package.python.readVersion? "[project] # remark\nversion = \"0.1.0\"\n" = some "0.1.0" ∧
      Package.python.writeVersion? "[project] # remark\nversion = \"0.1.0\"\n" "0.2.0" = none ∧
      (check "." ⟨0, 2, [("python", 0)]⟩ .python false .offline
        (.ofPaths [("pyproject.toml", "[project] # remark\nversion = \"0.1.0\"\n")] [])).result =
          .error (.noVersion "./pyproject.toml" .write) ∧
      ∀ text ∈ ["project.version = \"0.1.0\"\n", "project = \x7bversion = \"0.1.0\"\x7d\n",
          "[project]\n'version' = \"0.1.0\"\n", "['project']\nversion = \"0.1.0\"\n",
          "[project]\nkeywords = [\n[1],\n]\nversion = \"0.1.0\"\n"],
        Package.python.readVersion? text = some "0.1.0" ∧
          Package.python.writeVersion? text "0.2.0" = none := by
  refine ⟨by decide +kernel, by decide +kernel, by decide +kernel, by decide +kernel⟩

end Check

end Dimensional.Release
