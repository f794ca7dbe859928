import Dimensional.Proofs.Text.Classes
import Dimensional.Proofs.Units.Grammar

/-!
Reading the parts of an expression below its factors: digits, integers, exponents and powers.  A
reader takes exactly such a part off the front when what follows cannot belong to it, and whatever
it takes is such a part.
-/

namespace Dimensional.Units

open Text

namespace Grammar

/-- The text does not go on with a character of the class. -/
def Stops (among : Char → Bool) (rest : List Char) : Prop :=
  ∀ c ∈ rest.head?, among c = false

@[simp] theorem stops_nil (among : Char → Bool) : Stops among [] := by
  simp [Stops]

@[simp] theorem stops_cons {among : Char → Bool} {c : Char} {rest : List Char} :
    Stops among (c :: rest) ↔ among c = false := by
  simp [Stops]

theorem stops_append_blanks {among : Char → Bool}
    (apart : ∀ {c}, isBlank c = true → among c = false) (gap : Blanks) {rest : List Char}
    (stops : Stops among rest) : Stops among (gap.text ++ rest) := by
  cases shape : gap.text with
  | nil => exact stops
  | cons c tail =>
      rw [List.cons_append, stops_cons]
      exact apart (gap.mem_among c (by simp [shape]))

namespace Run

variable {among : Char → Bool} (run : Run among) {rest : List Char}

def append (front back : Run among) : Run among where
  text := front.text ++ back.text
  mem_among := by
    intro c hc
    obtain front' | back' := List.mem_append.mp hc
    · exact front.mem_among c front'
    · exact back.mem_among c back'

@[simp] theorem text_append (front back : Run among) :
    (front.append back).text = front.text ++ back.text := rfl

theorem takeWhile_append (stops : Stops among rest) :
    (run.text ++ rest).takeWhile among = run.text := by
  rw [List.takeWhile_append_of_pos run.mem_among]
  cases rest with
  | nil => simp
  | cons c rest => simp [stops_cons.mp stops]

theorem dropWhile_append (stops : Stops among rest) :
    (run.text ++ rest).dropWhile among = rest := by
  rw [List.dropWhile_append_of_pos run.mem_among]
  cases rest with
  | nil => simp
  | cons c rest => simp [stops_cons.mp stops]

end Run

@[simp] theorem trimStart_append (gap : Blanks) (rest : List Char) :
    trimStart (gap.text ++ rest) = trimStart rest :=
  List.dropWhile_append_of_pos gap.mem_among

theorem exists_blanks (text : List Char) : ∃ gap : Blanks, text = gap.text ++ trimStart text := by
  obtain ⟨blanks, split, blank⟩ := exists_trimStart text
  exact ⟨⟨blanks, blank⟩, split⟩

/-- A word shows its first character. -/
theorem Word.exists_cons {among : Char → Bool} (word : Word among) :
    ∃ c tail, word.text = c :: tail ∧ among c = true := by
  obtain ⟨c, tail, shape⟩ := List.exists_cons_of_ne_nil word.nonempty
  exact ⟨c, tail, shape, word.mem_among c (by simp [shape])⟩

/-- An integer starts with a sign or a digit. -/
theorem Integer.exists_cons (n : Integer) :
    ∃ c tail, n.text = c :: tail ∧ isBlank c = false ∧ c ≠ '(' := by
  obtain ⟨d, tail, shape, digit⟩ := n.digits.exists_cons
  rw [Integer.text, shape]
  cases n.sign with
  | absent => exact ⟨d, tail, rfl, isBlank_of_isDigit digit, by rintro rfl; simp at digit⟩
  | plus => exact ⟨'+', d :: tail, rfl, by decide, by decide⟩
  | minus => exact ⟨'-', d :: tail, rfl, by decide, by decide⟩

theorem trimStart_integer (n : Integer) (rest : List Char) :
    trimStart (n.text ++ rest) = n.text ++ rest := by
  obtain ⟨c, tail, shape, blank, -⟩ := n.exists_cons
  rw [shape, List.cons_append, trimStart_of_not_isBlank _ blank]

theorem trimStart_digits (digits : Digits) (rest : List Char) :
    trimStart (digits.text ++ rest) = digits.text ++ rest := by
  obtain ⟨c, tail, shape, digit⟩ := digits.exists_cons
  rw [shape, List.cons_append, trimStart_of_not_isBlank _ (isBlank_of_isDigit digit)]

end Grammar

namespace Reader

open Grammar

variable {rest : List Char}

@[simp] theorem ok_bind {α β : Type} (a : α) (next : α → Except Fault β) :
    (Except.ok a >>= next) = next a := rfl

theorem unsigned_append (digits : Digits) (fits : digits.Admissible)
    (stops : Stops Char.isDigit rest) :
    unsigned (digits.text ++ rest) = .ok (digits.value, rest) := by
  simp only [unsigned, digits.takeWhile_append stops, digits.dropWhile_append stops]
  rw [if_neg (by simp [digits.nonempty])]
  exact if_pos fits

theorem signed_of_isDigit {c : Char} (digit : c.isDigit = true) (tail : List Char) :
    signed (c :: tail) = do
      let (n, rest) ← unsigned (c :: tail)
      return ((n : Int), rest) := by
  unfold signed
  split
  case h_1 shape =>
    cases shape
    simp at digit
  case h_2 shape =>
    cases shape
    simp at digit
  case h_3 => rfl

theorem signed_append (n : Integer) (fits : n.digits.Admissible)
    (stops : Stops Char.isDigit rest) :
    signed (n.text ++ rest) = .ok (n.value, rest) := by
  obtain ⟨sign, digits⟩ := n
  have read := unsigned_append digits fits stops
  cases sign with
  | absent =>
      obtain ⟨c, tail, shape, digit⟩ := digits.exists_cons
      rw [shape, List.cons_append] at read
      simp only [Integer.text, Sign.text, List.nil_append, shape, List.cons_append,
        signed_of_isDigit digit, read]
      rfl
  | plus =>
      simp only [Integer.text, Sign.text, List.cons_append, List.nil_append, signed, read]
      rfl
  | minus =>
      simp only [Integer.text, Sign.text, List.cons_append, List.nil_append, signed, read]
      rfl

theorem close_append (wanted : Wanted) (last : Blanks) (rest : List Char) :
    close wanted (last.text ++ ')' :: rest) = .ok rest := by
  rw [close, trimStart_append, trimStart_of_not_isBlank rest (by decide)]
  rfl

theorem close_cons (wanted : Wanted) (rest : List Char) :
    close wanted (')' :: rest) = .ok rest := by
  rw [close, trimStart_of_not_isBlank rest (by decide)]
  rfl

theorem denominator_of_close (last : Blanks) (rest : List Char) :
    denominator (last.text ++ ')' :: rest) = .ok (1, ')' :: rest) := by
  rw [denominator, trimStart_append, trimStart_of_not_isBlank rest (by decide)]
  rfl

theorem denominator_append (before behind : Blanks) (digits : Digits)
    (fits : digits.Admissible) (stops : Stops Char.isDigit rest) :
    denominator (before.text ++ '/' :: (behind.text ++ (digits.text ++ rest))) =
      .ok (digits.value, rest) := by
  simp only [denominator, trimStart_append,
    trimStart_of_not_isBlank _ (by decide : isBlank '/' = false), trimStart_digits]
  exact unsigned_append digits fits stops

theorem exponent_of_ne_open {text tail : List Char} {c : Char}
    (shape : trimStart text = c :: tail) (other : c ≠ '(') :
    exponent text = do
      let (n, rest) ← signed (c :: tail)
      return ((n : Rat), rest) := by
  rw [exponent, shape]
  split
  case h_1 same =>
    cases same
    exact absurd rfl other
  case h_2 => rfl

theorem exponent_append (e : Exponent) (fits : e.Admissible) (stops : Stops Char.isDigit rest) :
    exponent (e.text ++ rest) = .ok (e.value, rest) := by
  have opened : isBlank '(' = false := by decide
  cases e with
  | bare gap n =>
      obtain ⟨c, tail, shape, blank, other⟩ := n.exists_cons
      have read := signed_append n fits stops
      have start : trimStart ((Exponent.bare gap n).text ++ rest) = c :: (tail ++ rest) := by
        simp only [Exponent.text, List.append_assoc, trimStart_append, shape, List.cons_append,
          trimStart_of_not_isBlank _ blank]
      rw [exponent_of_ne_open start other, ← List.cons_append, ← shape, read]
      rfl
  | whole gap inside n last =>
      have closes : Stops Char.isDigit (last.text ++ ')' :: rest) :=
        stops_append_blanks isDigit_of_isBlank last (by simp)
      simp only [Exponent.text, List.append_assoc, List.cons_append, List.nil_append, exponent,
        trimStart_append, trimStart_of_not_isBlank _ opened, trimStart_integer,
        signed_append n fits closes, denominator_of_close, ok_bind, close_cons]
      rw [if_neg (by decide), Rat.mkRat_one]
      rfl
  | fraction gap inside n before behind d last =>
      obtain ⟨fitsN, fitsD, positive⟩ := fits
      have goesOn : Stops Char.isDigit (before.text ++ '/' ::
          (behind.text ++ (d.text ++ (last.text ++ ')' :: rest)))) :=
        stops_append_blanks isDigit_of_isBlank before (by simp)
      have closes : Stops Char.isDigit (last.text ++ ')' :: rest) :=
        stops_append_blanks isDigit_of_isBlank last (by simp)
      simp only [Exponent.text, List.append_assoc, List.cons_append, List.nil_append, exponent,
        trimStart_append, trimStart_of_not_isBlank _ opened, trimStart_integer,
        signed_append n fitsN goesOn, denominator_append before behind d fitsD closes, ok_bind,
        close_append, if_neg positive]
      rfl

/-! What a reader has taken, read off its success. -/

@[simp] theorem fault_ne_ok {α : Type} {cause : Fault.Cause} {rest : List Char} {a : α} :
    fault cause rest ≠ .ok a := by
  simp [fault]

@[simp] theorem missing_ne_ok {α : Type} {wanted : Wanted} {rest : List Char} {a : α} :
    missing wanted rest ≠ .ok a := by
  cases rest <;> simp [missing]

theorem bind_eq_ok_iff {ε α β : Type} {first : Except ε α} {next : α → Except ε β} {b : β} :
    (first >>= next) = .ok b ↔ ∃ a, first = .ok a ∧ next a = .ok b := by
  cases first with
  | error f => simp [bind, Except.bind]
  | ok a => simp [bind, Except.bind]

theorem digits_of_unsigned {text : List Char} {n : Nat} (h : unsigned text = .ok (n, rest)) :
    ∃ digits : Digits, text = digits.text ++ rest ∧ digits.Admissible ∧ digits.value = n := by
  simp only [unsigned] at h
  split at h
  · simp at h
  · next nonempty =>
      split at h
      · next fits =>
          cases h
          have digit : ∀ c ∈ text.takeWhile Char.isDigit, c.isDigit = true :=
            List.all_eq_true.mp List.all_takeWhile
          refine ⟨⟨⟨text.takeWhile Char.isDigit, digit⟩, by simpa using nonempty⟩, ?_, fits, rfl⟩
          exact List.takeWhile_append_dropWhile.symm
      · simp at h

theorem integer_of_signed {text : List Char} {n : Int} (h : signed text = .ok (n, rest)) :
    ∃ i : Integer, text = i.text ++ rest ∧ i.digits.Admissible ∧ i.value = n := by
  unfold signed at h
  split at h
  case h_1 =>
    obtain ⟨⟨m, _⟩, read, same⟩ := bind_eq_ok_iff.mp h
    obtain ⟨digits, shape, fits, rfl⟩ := digits_of_unsigned read
    cases same
    exact ⟨⟨.minus, digits⟩, by rw [shape]; rfl, fits, rfl⟩
  case h_2 =>
    obtain ⟨⟨m, _⟩, read, same⟩ := bind_eq_ok_iff.mp h
    obtain ⟨digits, shape, fits, rfl⟩ := digits_of_unsigned read
    cases same
    exact ⟨⟨.plus, digits⟩, by rw [shape]; rfl, fits, rfl⟩
  case h_3 =>
    obtain ⟨⟨m, _⟩, read, same⟩ := bind_eq_ok_iff.mp h
    obtain ⟨digits, shape, fits, rfl⟩ := digits_of_unsigned read
    cases same
    exact ⟨⟨.absent, digits⟩, shape, fits, rfl⟩

theorem blanks_of_close {wanted : Wanted} {text : List Char} (h : close wanted text = .ok rest) :
    ∃ last : Blanks, text = last.text ++ ')' :: rest := by
  obtain ⟨last, shape⟩ := exists_blanks text
  unfold close at h
  split at h
  case h_1 start =>
    cases h
    exact ⟨last, by rw [← start]; exact shape⟩
  case h_2 => simp at h

theorem denominator_cases {text : List Char} {n : Nat} (h : denominator text = .ok (n, rest)) :
    (∃ gap : Blanks, text = gap.text ++ rest ∧ n = 1) ∨
      ∃ (before behind : Blanks) (d : Digits),
        text = before.text ++ '/' :: (behind.text ++ (d.text ++ rest)) ∧
          d.Admissible ∧ d.value = n := by
  obtain ⟨before, shape⟩ := exists_blanks text
  unfold denominator at h
  split at h
  case h_1 tail start =>
    obtain ⟨behind, shape'⟩ := exists_blanks tail
    obtain ⟨d, shape'', fits, value⟩ := digits_of_unsigned h
    refine .inr ⟨before, behind, d, ?_, fits, value⟩
    rw [← shape'', ← shape', ← start]
    exact shape
  case h_2 =>
    cases h
    exact .inl ⟨before, shape, rfl⟩

theorem exponent_of_read {text : List Char} {r : Rat} (h : exponent text = .ok (r, rest)) :
    ∃ e : Exponent, text = e.text ++ rest ∧ e.Admissible ∧ e.value = r := by
  obtain ⟨gap, shape⟩ := exists_blanks text
  unfold exponent at h
  split at h
  case h_1 tail start =>
    obtain ⟨inside, shapeIn⟩ := exists_blanks tail
    obtain ⟨⟨m, rest₁⟩, readN, afterN⟩ := bind_eq_ok_iff.mp h
    obtain ⟨⟨d, rest₂⟩, readD, afterD⟩ := bind_eq_ok_iff.mp afterN
    obtain ⟨rest₃, readClose, afterClose⟩ := bind_eq_ok_iff.mp afterD
    obtain ⟨n, shapeN, fitsN, rfl⟩ := integer_of_signed readN
    obtain ⟨last, rfl⟩ := blanks_of_close readClose
    rw [start, shapeIn, shapeN] at shape
    split at afterClose
    · simp at afterClose
    · next positive =>
        cases afterClose
        -- Without a denominator the white space it was looked for behind joins that at the end.
        obtain ⟨gap', rfl, rfl⟩ | ⟨before, behind, d, rfl, fitsD, rfl⟩ := denominator_cases readD
        · refine ⟨.whole gap inside n (gap'.append last), ?_, fitsN, (Rat.mkRat_one _).symm⟩
          simp [shape, Exponent.text]
        · refine ⟨.fraction gap inside n before behind d last, ?_, ⟨fitsN, fitsD, positive⟩, rfl⟩
          simp [shape, Exponent.text]
  case h_2 =>
    obtain ⟨⟨m, rest₁⟩, readN, same⟩ := bind_eq_ok_iff.mp h
    obtain ⟨n, shapeN, fitsN, rfl⟩ := integer_of_signed readN
    cases same
    refine ⟨.bare gap n, ?_, fitsN, rfl⟩
    rw [shape, shapeN, Exponent.text, List.append_assoc]

end Reader

end Dimensional.Units
