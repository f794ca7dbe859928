import Dimensional.Docs.Config
import Dimensional.Proofs.Units.Grammar
import Mathlib.Data.List.Basic

/-!
Arguments against the environment.  A port among the arguments stands in the place of the one that
is set in the environment, and so does a directory; but a port in the environment that is none makes
the settings faulty all the same.
-/

namespace Dimensional.Docs

namespace Port

open Units.Grammar (Digits)

/-- Decimal digits, which a plus sign may precede, for a port that there is. -/
structure IsPort (text : String) (port : Nat) : Prop where
  spelled : ∃ digits : Digits,
    (text.toList = digits.text ∨ text.toList = '+' :: digits.text) ∧ digits.value = port
  most : port ≤ max

def digitsFrom (n : Nat) (digits : List Char) : Nat :=
  digits.foldl (fun n c => n * 10 + (c.toNat - '0'.toNat)) n

theorem le_digitsFrom (n : Nat) (digits : List Char) : n ≤ digitsFrom n digits := by
  induction digits generalizing n with
  | nil => exact Nat.le_refl n
  | cons c rest ih => exact Nat.le_trans (by omega) (ih (n * 10 + (c.toNat - '0'.toNat)))

/-- A number that is too large stays so, whatever digits follow. -/
theorem readDigits_eq_ok_iff {n port : Nat} {digits : List Char} (small : n ≤ max) :
    readDigits n digits = .ok port ↔
      (∀ c ∈ digits, c.isDigit = true) ∧ digitsFrom n digits = port ∧ port ≤ max := by
  induction digits generalizing n with
  | nil =>
      rw [readDigits, Except.ok.injEq]
      constructor
      · rintro rfl
        exact ⟨by simp, rfl, small⟩
      · rintro ⟨-, value, -⟩
        exact value
  | cons c rest ih =>
      rw [readDigits, List.forall_mem_cons]
      split
      case isTrue other =>
        have noDigit : c.isDigit = false := by simpa using other
        refine iff_of_false (by simp) ?_
        rintro ⟨⟨digit, -⟩, -⟩
        rw [noDigit] at digit
        contradiction
      case isFalse digit =>
        have digit : c.isDigit = true := by simpa using digit
        simp only
        split
        case isTrue large =>
          refine iff_of_false (by simp) ?_
          rintro ⟨-, rfl, most⟩
          exact absurd (Nat.le_trans (le_digitsFrom _ rest) most) (Nat.not_le.mpr large)
        case isFalse fits =>
          rw [ih (Nat.not_lt.mp fits)]
          simp [digit, digitsFrom]

theorem readDigits_word_eq_ok_iff {port : Nat} {digits : List Char} (nonempty : digits ≠ []) :
    readDigits 0 digits = .ok port ↔
      (∃ word : Digits, digits = word.text ∧ word.value = port) ∧ port ≤ max := by
  rw [readDigits_eq_ok_iff (Nat.zero_le max), ← and_assoc]
  refine and_congr_left fun _ => ?_
  constructor
  · rintro ⟨among, value⟩
    exact ⟨⟨⟨digits, among⟩, nonempty⟩, rfl, value⟩
  · rintro ⟨word, rfl, value⟩
    exact ⟨word.mem_among, value⟩

theorem not_isPort {text : String} {port : Nat}
    (plain : ∀ digits : Digits, text.toList ≠ digits.text)
    (signed : ∀ digits : Digits, text.toList ≠ '+' :: digits.text) : ¬ IsPort text port := by
  rintro ⟨⟨digits, same | same, -⟩, -⟩
  · exact plain digits same
  · exact signed digits same

theorem text_ne_plus (digits : Digits) (rest : List Char) : digits.text ≠ '+' :: rest := by
  intro same
  have digit := digits.mem_among '+' (same ▸ List.mem_cons_self)
  contradiction

theorem read_eq_ok_iff {text : String} {port : Nat} :
    read text = .ok port ↔ IsPort text port := by
  rw [read]
  split
  case h_1 empty =>
    refine iff_of_false (by simp) (not_isPort (fun digits same => ?_) fun digits same => ?_)
    · exact digits.nonempty (same.symm.trans empty)
    · exact List.cons_ne_nil _ _ (same.symm.trans empty)
  case h_2 sign =>
    refine iff_of_false (by simp) (not_isPort (fun digits same => ?_) fun digits same => ?_)
    · exact text_ne_plus digits [] (same.symm.trans sign)
    · exact digits.nonempty (List.cons.inj (same.symm.trans sign)).2
  case h_3 digits nonempty signed =>
    rw [readDigits_word_eq_ok_iff nonempty]
    constructor
    · rintro ⟨⟨word, rfl, value⟩, most⟩
      exact ⟨⟨word, .inr signed, value⟩, most⟩
    · rintro ⟨⟨word, same | same, value⟩, most⟩
      · exact absurd (same.symm.trans signed) (text_ne_plus word digits)
      · exact ⟨⟨word, (List.cons.inj (signed.symm.trans same)).2, value⟩, most⟩
  case h_4 nonempty only unsigned =>
    rw [readDigits_word_eq_ok_iff nonempty]
    constructor
    · rintro ⟨⟨word, same, value⟩, most⟩
      exact ⟨⟨word, .inl same, value⟩, most⟩
    · rintro ⟨⟨word, same | same, value⟩, most⟩
      · exact ⟨⟨word, same, value⟩, most⟩
      · exact absurd same (unsigned word.text)

end Port

namespace Config

open Port (IsPort)

/-- The environment sets a text that is no port. -/
def Misspells (environment : String → Option String) (text : String) : Prop :=
  environment "PORT" = some text ∧ ∀ port, ¬ IsPort text port

/-- What a port and the arguments behind it settle, with an environment to fall back on. -/
def settled (port : Nat) (others : List String) (environment : String → Option String) :
    Except Problem Config :=
  let host := (environment "HOST").getD initial.host
  match others with
  | [] => .ok ⟨(environment "DOCS_DIR").getD initial.directory, host, port⟩
  | [directory] => .ok ⟨directory, host, port⟩
  | _ :: extra :: _ => .error (.unexpected extra)

section Settings

variable {environment other : String → Option String} {text argument : String}
  {others : List String} {port : Nat}

theorem misspells_iff :
    Misspells environment text ↔
      environment "PORT" = some text ∧ ∃ cause, Port.read text = .error cause := by
  refine and_congr_right fun _ => ?_
  cases read : Port.read text with
  | ok port =>
      exact iff_of_false (fun none => none port (Port.read_eq_ok_iff.mp read)) (by simp)
  | error cause =>
      refine iff_of_true (fun port isPort => ?_) ⟨cause, rfl⟩
      rw [Port.read_eq_ok_iff.mpr isPort] at read
      contradiction

/-- A text that is no port fails the settings before the arguments are looked at. -/
theorem read_of_error {cause : Port.Problem} (arguments : List String)
    (set : environment "PORT" = some text) (failed : Port.read text = .error cause) :
    read arguments environment = .error (.environmentPort text cause) := by
  have faulty : ofEnvironment environment = .error (.environmentPort text cause) := by
    simp only [ofEnvironment, set, failed]
  rw [read, faulty]
  rfl

theorem ofEnvironment_of_not_misspells (sound : ∀ text, ¬ Misspells environment text) :
    ∃ port, ofEnvironment environment =
      .ok ⟨(environment "DOCS_DIR").getD initial.directory,
        (environment "HOST").getD initial.host, port⟩ := by
  rw [ofEnvironment]
  cases set : environment "PORT" with
  | none => exact ⟨initial.port, rfl⟩
  | some text =>
      cases read : Port.read text with
      | ok port => exact ⟨port, by simp only [read]⟩
      | error cause => exact absurd (misspells_iff.mpr ⟨set, cause, read⟩) (sound text)

theorem withPort_of_isPort (config : Config) (isPort : IsPort argument port) :
    config.withPort argument = .ok { config with port } := by
  rw [withPort, Port.read_eq_ok_iff.mpr isPort]

theorem read_of_not_misspells (isPort : IsPort argument port)
    (sound : ∀ text, ¬ Misspells environment text) :
    read (argument :: others) environment = settled port others environment := by
  obtain ⟨fallback, made⟩ := ofEnvironment_of_not_misspells sound
  rw [read, made]
  change withArguments _ (argument :: others) = settled port others environment
  rcases others with _ | ⟨directory, _ | ⟨extra, behind⟩⟩
  · rw [withArguments, withPort_of_isPort _ isPort]
    rfl
  · rw [withArguments, withPort_of_isPort _ isPort]
    rfl
  · rw [withArguments, withPort_of_isPort _ isPort]
    rfl

theorem settled_congr (host : environment "HOST" = other "HOST")
    (directory : others = [] → environment "DOCS_DIR" = other "DOCS_DIR") :
    settled port others environment = settled port others other := by
  rcases others with _ | ⟨directory, _ | ⟨extra, behind⟩⟩
  · rw [settled, settled, host, directory rfl]
  · rw [settled, settled, host]
  · rfl

theorem settled_ne_environmentPort (cause : Port.Problem) :
    settled port others environment ≠ .error (.environmentPort text cause) := by
  rcases others with _ | ⟨directory, _ | ⟨extra, behind⟩⟩ <;> simp [settled]

theorem misspells_iff_read (isPort : IsPort argument port) :
    Misspells environment text ↔ ∃ cause,
      read (argument :: others) environment = .error (.environmentPort text cause) := by
  constructor
  · intro misspells
    obtain ⟨set, cause, failed⟩ := misspells_iff.mp misspells
    exact ⟨cause, read_of_error _ set failed⟩
  · rintro ⟨cause, faulty⟩
    by_cases sound : ∀ text, ¬ Misspells environment text
    · rw [read_of_not_misspells isPort sound] at faulty
      exact absurd faulty (settled_ne_environmentPort cause)
    · obtain ⟨text, misspells⟩ := Classical.not_forall_not.mp sound
      obtain ⟨set, cause, failed⟩ := misspells_iff.mp misspells
      rw [read_of_error _ set failed, Except.error.injEq, Problem.environmentPort.injEq] at faulty
      exact faulty.1 ▸ misspells

/-- The arguments stand in the place of the environment, but for a port in it that is none: two
environments give the same exactly if neither sets such a text, or both set the same one. -/
structure Overrides (port : Nat) (argument : String) (others : List String)
    (environment other : String → Option String) : Prop where
  same_iff : read (argument :: others) environment = read (argument :: others) other ↔
    ∀ text, Misspells environment text ↔ Misspells other text
  misspelled : ∀ text, Misspells environment text ↔ ∃ cause,
    read (argument :: others) environment = .error (.environmentPort text cause)
  sound : (∀ text, ¬ Misspells environment text) →
    read (argument :: others) environment = settled port others environment

theorem read_overrides (isPort : IsPort argument port)
    (host : environment "HOST" = other "HOST")
    (directory : others = [] → environment "DOCS_DIR" = other "DOCS_DIR") :
    Overrides port argument others environment other where
  same_iff := by
    constructor
    · intro same text
      have own : Misspells environment text ↔ ∃ cause,
          read (argument :: others) environment = .error (.environmentPort text cause) :=
        misspells_iff_read isPort
      rw [own, same]
      exact (misspells_iff_read isPort).symm
    · intro alike
      by_cases sound : ∀ text, ¬ Misspells environment text
      · have otherSound : ∀ text, ¬ Misspells other text :=
          fun text misspells => sound text ((alike text).mpr misspells)
        rw [read_of_not_misspells isPort sound, read_of_not_misspells isPort otherSound,
          settled_congr host directory]
      · obtain ⟨text, misspells⟩ := Classical.not_forall_not.mp sound
        obtain ⟨set, cause, failed⟩ := misspells_iff.mp misspells
        rw [read_of_error _ set failed, read_of_error _ ((alike text).mp misspells).1 failed]
  misspelled _ := misspells_iff_read isPort
  sound := read_of_not_misspells isPort

end Settings

/-- An environment that sets a port and a directory. -/
def setting (port directory : String) (name : String) : Option String :=
  if name = "PORT" then some port
  else if name = "DOCS_DIR" then some directory
  else none

/-- Neither the port nor the directory of an environment plays a part beside two arguments. -/
theorem read_overrides_twoArguments :
    IsPort "+09100" 9100 ∧ setting "8080" "old" "HOST" = setting "8081" "new" "HOST" ∧
      (["docs"] = [] → setting "8080" "old" "DOCS_DIR" = setting "8081" "new" "DOCS_DIR") ∧
      Overrides 9100 "+09100" ["docs"] (setting "8080" "old") (setting "8081" "new") := by
  have isPort : IsPort "+09100" 9100 := Port.read_eq_ok_iff.mp (by decide +kernel)
  have host : setting "8080" "old" "HOST" = setting "8081" "new" "HOST" := by decide
  have directory : ["docs"] = [] →
      setting "8080" "old" "DOCS_DIR" = setting "8081" "new" "DOCS_DIR" :=
    fun none => absurd none (List.cons_ne_nil _ _)
  exact ⟨isPort, host, directory, read_overrides isPort host directory⟩

/-- A port in the environment that is none fails settings whose port is an argument. -/
theorem read_ne_misspelledPort :
    IsPort "9100" 9100 ∧ setting "http" "doc" "HOST" = setting "9000" "doc" "HOST" ∧
      setting "http" "doc" "DOCS_DIR" = setting "9000" "doc" "DOCS_DIR" ∧
      read ["9100"] (setting "http" "doc") ≠ read ["9100"] (setting "9000" "doc") := by
  have isPort : IsPort "9100" 9100 := Port.read_eq_ok_iff.mp (by decide +kernel)
  exact ⟨isPort, by decide, by decide, by decide +kernel⟩

end Config

end Dimensional.Docs
