import Dimensional.Proofs.Units.Literal

/-!
Reading a factor that is no parenthesis: `1` or a symbol, and the power behind it.  A symbol ends
where its letters end and `1` where its digits end, since neither can go on with what may follow.
-/

namespace Dimensional.Units

open Text

namespace Grammar

/-- The text ends, or its first character besides white space is one of these. -/
def Follows (marks : List Char) (rest : List Char) : Prop :=
  ∀ c ∈ (trimStart rest).head?, c ∈ marks

/-! What may stand behind a factor, a group and an expression. -/

def factorMarks : List Char := ['-', '*', '/', ')']

def groupMarks : List Char := ['*', '/', ')']

def expressionMarks : List Char := [')']

namespace Follows

variable {marks more : List Char} {rest tail : List Char} {c : Char}

@[simp] theorem nil (marks : List Char) : Follows marks [] := by
  simp [Follows]

@[simp] theorem append_iff (gap : Blanks) :
    Follows marks (gap.text ++ rest) ↔ Follows marks rest := by
  simp [Follows]

theorem cons (mark : c ∈ marks) (notBlank : isBlank c = false) : Follows marks (c :: rest) := by
  rw [Follows, trimStart_of_not_isBlank rest notBlank]
  simpa using mark

theorem mono (follows : Follows marks rest) (sub : marks ⊆ more) : Follows more rest :=
  fun c hc => sub (follows c hc)

theorem ne_cons (follows : Follows marks rest) (other : c ∉ marks) :
    trimStart rest ≠ c :: tail := by
  intro start
  exact other (follows c (by simp [start]))

theorem stops {among : Char → Bool} (follows : Follows marks rest)
    (blank : ∀ {c}, isBlank c = true → among c = false)
    (mark : marks.any among = false) : Stops among rest := by
  cases rest with
  | nil => exact stops_nil among
  | cons c rest =>
      rw [stops_cons]
      cases h : isBlank c with
      | true => exact blank h
      | false =>
          rw [Follows, trimStart_of_not_isBlank rest h] at follows
          exact Bool.eq_false_iff.mpr (List.any_eq_false.mp mark c (follows c rfl))

theorem stops_digit (follows : Follows factorMarks rest) : Stops Char.isDigit rest :=
  follows.stops isDigit_of_isBlank (by decide)

theorem stops_letter (follows : Follows factorMarks rest) : Stops isAlphabetic rest :=
  follows.stops isAlphabetic_of_isBlank (by decide)

end Follows

namespace Power

variable {rest : List Char}

theorem stops_digit (power : Power) (follows : Follows factorMarks rest) :
    Stops Char.isDigit (power.text ++ rest) := by
  cases power with
  | absent => exact follows.stops_digit
  | raised gap e =>
      rw [text, List.append_assoc, List.cons_append]
      exact stops_append_blanks isDigit_of_isBlank gap (by simp)

theorem stops_letter (power : Power) (follows : Follows factorMarks rest) :
    Stops isAlphabetic (power.text ++ rest) := by
  cases power with
  | absent => exact follows.stops_letter
  | raised gap e =>
      rw [text, List.append_assoc, List.cons_append]
      exact stops_append_blanks isAlphabetic_of_isBlank gap (stops_cons.mpr (by decide))

end Power

theorem SymbolPower.stops_letter (power : SymbolPower) {rest : List Char}
    (follows : Follows factorMarks rest) : Stops isAlphabetic (power.text ++ rest) := by
  cases power with
  | glued digits =>
      obtain ⟨c, tail, shape, digit⟩ := digits.exists_cons
      rw [SymbolPower.text, shape, List.cons_append, stops_cons]
      exact isAlphabetic_of_isDigit digit
  | spaced power => exact power.stops_letter follows

end Grammar

namespace Reader

open Grammar

variable {m result : Measure} {rest : List Char}

@[simp] theorem inRange_eq_ok_iff {outcome : Option Measure} {text : List Char} :
    inRange outcome text = .ok (result, rest) ↔ outcome = some result ∧ text = rest := by
  cases outcome <;> simp [inRange]

theorem powered_append (power : Power) (fits : power.Admissible)
    (value : power.applied? m = some result) (follows : Follows factorMarks rest) :
    powered m (power.text ++ rest) = .ok (result, rest) := by
  cases power with
  | absent =>
      cases value
      unfold powered
      split
      case h_1 start => exact absurd start (follows.ne_cons (by decide))
      case h_2 => rfl
  | raised gap e =>
      have read := exponent_append e fits follows.stops_digit
      have caret : isBlank '^' = false := by decide
      simp only [Power.text, List.append_assoc, List.cons_append, powered, trimStart_append,
        trimStart_of_not_isBlank _ caret, read, ok_bind, inRange_eq_ok_iff, and_true]
      exact value

theorem power_of_powered {text : List Char} (h : powered m text = .ok (result, rest)) :
    ∃ power : Power,
      text = power.text ++ rest ∧ power.Admissible ∧ power.applied? m = some result := by
  obtain ⟨gap, shape⟩ := exists_blanks text
  unfold powered at h
  split at h
  case h_1 tail start =>
    obtain ⟨⟨r, _⟩, read, after⟩ := bind_eq_ok_iff.mp h
    obtain ⟨e, shapeE, fits, rfl⟩ := exponent_of_read read
    obtain ⟨value, rfl⟩ := inRange_eq_ok_iff.mp after
    refine ⟨.raised gap e, ?_, fits, value⟩
    rw [shape, start, shapeE, Power.text, List.append_assoc, List.cons_append]
  case h_2 =>
    cases h
    exact ⟨.absent, rfl, trivial, rfl⟩

theorem symbolPowered_of_stops {text : List Char} (stops : Stops Char.isDigit text) :
    symbolPowered m text = powered m text := by
  cases text with
  | nil => rfl
  | cons c text =>
      simp only [symbolPowered, stops_cons.mp stops]
      rfl

theorem symbolPowered_append (power : SymbolPower) (fits : power.Admissible)
    (value : power.applied? m = some result) (follows : Follows factorMarks rest) :
    symbolPowered m (power.text ++ rest) = .ok (result, rest) := by
  cases power with
  | glued digits =>
      have read := unsigned_append digits fits follows.stops_digit
      obtain ⟨c, tail, shape, digit⟩ := digits.exists_cons
      rw [shape, List.cons_append] at read
      simp only [SymbolPower.text, shape, List.cons_append, symbolPowered, digit, if_true, read,
        ok_bind, inRange_eq_ok_iff, and_true]
      exact value
  | spaced power =>
      rw [SymbolPower.text, symbolPowered_of_stops (power.stops_digit follows)]
      exact powered_append power fits value follows

theorem power_of_symbolPowered {text : List Char}
    (h : symbolPowered m text = .ok (result, rest)) :
    ∃ power : SymbolPower,
      text = power.text ++ rest ∧ power.Admissible ∧ power.applied? m = some result := by
  by_cases stops : Stops Char.isDigit text
  · rw [symbolPowered_of_stops stops] at h
    obtain ⟨power, shape, fits, value⟩ := power_of_powered h
    exact ⟨.spaced power, shape, fits, value⟩
  · cases text with
    | nil => simp at stops
    | cons c text =>
        simp only [stops_cons, Bool.not_eq_false] at stops
        simp only [symbolPowered, stops, if_true] at h
        obtain ⟨⟨n, _⟩, read, after⟩ := bind_eq_ok_iff.mp h
        obtain ⟨digits, shape, fits, rfl⟩ := digits_of_unsigned read
        obtain ⟨value, rfl⟩ := inRange_eq_ok_iff.mp after
        exact ⟨.glued digits, shape, fits, value⟩

theorem number_append (power : Power) (fits : power.Admissible)
    (value : power.applied? .one = some result) (follows : Follows factorMarks rest) :
    number ('1' :: (power.text ++ rest)) = .ok (result, rest) := by
  let one : Run Char.isDigit := ⟨['1'], List.all_eq_true.mp (by decide)⟩
  have front := one.takeWhile_append (power.stops_digit follows)
  have back := one.dropWhile_append (power.stops_digit follows)
  simp only [one, List.cons_append, List.nil_append] at front back
  simp only [number, front, back, if_true]
  exact powered_append power fits value follows

theorem power_of_number {text : List Char} (h : number text = .ok (result, rest)) :
    ∃ power : Power,
      text = '1' :: (power.text ++ rest) ∧ power.Admissible ∧
        power.applied? .one = some result := by
  simp only [number] at h
  split at h
  case isTrue one =>
    obtain ⟨power, shape, fits, value⟩ := power_of_powered h
    refine ⟨power, ?_, fits, value⟩
    rw [← shape, ← List.singleton_append, ← one, List.takeWhile_append_dropWhile]
  case isFalse => simp at h

theorem symbol_append {registry : Registry} (name : Name) (power : SymbolPower)
    (fits : power.Admissible) (known : registry.resolve (String.ofList name.text) = some m)
    (value : power.applied? m = some result) (follows : Follows factorMarks rest) :
    symbol registry (name.text ++ (power.text ++ rest)) = .ok (result, rest) := by
  have stops := power.stops_letter follows
  simp only [symbol, name.takeWhile_append stops, name.dropWhile_append stops, known]
  exact symbolPowered_append power fits value follows

theorem name_of_symbol {registry : Registry} {c : Char} {tail : List Char}
    (letter : isAlphabetic c = true)
    (h : symbol registry (c :: tail) = .ok (result, rest)) :
    ∃ (name : Name) (power : SymbolPower) (m : Measure),
      c :: tail = name.text ++ (power.text ++ rest) ∧ power.Admissible ∧
        registry.resolve (String.ofList name.text) = some m ∧
        power.applied? m = some result := by
  simp only [symbol] at h
  split at h
  case h_1 m known =>
    obtain ⟨power, shape, fits, value⟩ := power_of_symbolPowered h
    have letters : ∀ d ∈ (c :: tail).takeWhile isAlphabetic, isAlphabetic d = true :=
      List.all_eq_true.mp List.all_takeWhile
    refine ⟨⟨⟨(c :: tail).takeWhile isAlphabetic, letters⟩, by simp [letter]⟩, power, m, ?_, fits,
      known, value⟩
    rw [← shape]
    exact List.takeWhile_append_dropWhile.symm
  case h_2 => simp at h

end Reader

end Dimensional.Units
