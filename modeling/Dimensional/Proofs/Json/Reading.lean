import Dimensional.Json.Reading
import Dimensional.Proofs.Text.Plain

/-!
Reading JSON text piece by piece: a number is read alike whatever stands behind it, a string of
plain characters is read up to its closing quote, and the members of an object are read one by one.
-/

namespace Dimensional.Json

open Text

/-- No number goes on with this character. -/
def EndsNumber (c : Char) : Prop :=
  c.isDigit = false ∧ c ≠ '.' ∧ c ≠ 'e' ∧ c ≠ 'E'

instance (c : Char) : Decidable (EndsNumber c) :=
  inferInstanceAs (Decidable (_ ∧ _))

section Numbers

variable {c : Char} {text rest behind : List Char}

theorem digits_append (mark : EndsNumber c) :
    digits (text ++ c :: behind) = ((digits text).1, (digits text).2 ++ c :: behind) := by
  induction text with
  | nil => simp [digits, mark.1]
  | cons d text ih =>
      cases digit : d.isDigit with
      | false => simp [digits, digit]
      | true => simpa [digits, digit] using ih

theorem fraction?_of_ne_point {text : List Char} (other : ∀ d ∈ text.head?, d ≠ '.') :
    fraction? text = some (none, text) := by
  unfold fraction?
  split
  · exact absurd rfl (other '.' rfl)
  · rfl

theorem fraction?_append {places : Option (List Char)} (mark : EndsNumber c)
    (h : fraction? text = some (places, rest)) :
    fraction? (text ++ c :: behind) = some (places, rest ++ c :: behind) := by
  cases text with
  | nil =>
      cases h
      exact fraction?_of_ne_point (by simpa using mark.2.1)
  | cons d tail =>
      by_cases point : d = '.'
      · subst point
        simp only [List.cons_append, fraction?, digits_append mark] at h ⊢
        split at h
        · cases h
        · next some_digit =>
            cases h
            rw [if_neg some_digit]
      · rw [fraction?_of_ne_point (by simpa using point)] at h
        cases h
        exact fraction?_of_ne_point (by simpa using point)

theorem exponentDigits?_append {negative : Bool} {exponent : Option Int} (mark : EndsNumber c)
    (h : exponentDigits? negative text = some (exponent, rest)) :
    exponentDigits? negative (text ++ c :: behind) = some (exponent, rest ++ c :: behind) := by
  simp only [exponentDigits?, digits_append mark] at h ⊢
  split at h
  · cases h
  · next some_digit =>
      cases h
      rw [if_neg some_digit]

theorem exponent?_of_not_letter {d : Char} {tail : List Char} (letter : ¬ (d = 'e' ∨ d = 'E')) :
    exponent? (d :: tail) = some (none, d :: tail) := by
  unfold exponent?
  exact if_neg letter

theorem exponent?_of_letter {d : Char} {tail : List Char} (letter : d = 'e' ∨ d = 'E') :
    exponent? (d :: tail) =
      match tail with
      | '-' :: tail => exponentDigits? true tail
      | '+' :: tail => exponentDigits? false tail
      | tail => exponentDigits? false tail := by
  unfold exponent?
  exact if_pos letter

theorem exponent?_append {exponent : Option Int} (mark : EndsNumber c)
    (h : exponent? text = some (exponent, rest)) :
    exponent? (text ++ c :: behind) = some (exponent, rest ++ c :: behind) := by
  cases text with
  | nil =>
      cases h
      exact exponent?_of_not_letter (not_or.mpr mark.2.2)
  | cons d tail =>
      rw [List.cons_append]
      by_cases letter : d = 'e' ∨ d = 'E'
      · rw [exponent?_of_letter letter] at h ⊢
        cases tail with
        | nil => cases h
        | cons sign tail =>
            rw [List.cons_append]
            split at h
            · next same =>
                cases same
                exact exponentDigits?_append mark h
            · next same =>
                cases same
                exact exponentDigits?_append mark h
            · next minus plus =>
                split
                · next same =>
                    cases same
                    exact absurd rfl (minus _)
                · next same =>
                    cases same
                    exact absurd rfl (plus _)
                · rw [← List.cons_append]
                  exact exponentDigits?_append mark h
      · rw [exponent?_of_not_letter letter] at h ⊢
        cases h
        rfl

variable {round : Rounding}

theorem unsignedNumber?_append {negative : Bool} {v : Value} (mark : EndsNumber c)
    (h : unsignedNumber? round negative text = some (v, rest)) :
    unsignedNumber? round negative (text ++ c :: behind) = some (v, rest ++ c :: behind) := by
  simp only [unsignedNumber?, digits_append mark] at h ⊢
  split at h
  · cases h
  · next whole =>
      rw [if_neg whole]
      simp only [Option.bind_eq_bind, Option.bind_eq_some_iff] at h ⊢
      obtain ⟨⟨places, rest₁⟩, fraction, ⟨exponent, rest₂⟩, power, value, bounded, same⟩ := h
      cases same
      exact ⟨_, fraction?_append mark fraction, _, exponent?_append mark power, _, bounded, rfl⟩

theorem value?_of_isDigit {d : Char} {tail : List Char} (digit : d.isDigit = true) :
    value? round (d :: tail) = unsignedNumber? round false (d :: tail) := by
  simp only [value?]
  split
  case h_8 => exact if_pos digit
  all_goals exact absurd digit (by decide)

/-- Only a minus sign and a digit begin a number. -/
theorem number_cases {d : Char} {tail : List Char} {v : Value} {x : Float}
    (h : value? round (d :: tail) = some (v, rest)) (number : v.number? = some x) :
    (d = '-' ∧ unsignedNumber? round true tail = some (v, rest)) ∨
      (d.isDigit = true ∧ unsignedNumber? round false (d :: tail) = some (v, rest)) := by
  have keyword {word : String} {value : Value} (other : value.number? = none)
      (h : keyword? word value (d :: tail) = some (v, rest)) : False := by
    unfold keyword? at h
    split at h
    · cases h
      cases other.symm.trans number
    · cases h
  simp only [value?] at h
  split at h
  · exact (keyword rfl h).elim
  · exact (keyword rfl h).elim
  · exact (keyword rfl h).elim
  · obtain ⟨body, -, same⟩ := Option.map_eq_some_iff.mp h
    cases same
    cases number
  · cases h
    cases number
  · cases h
    cases number
  · exact .inl ⟨rfl, h⟩
  · split at h
    · next digit => exact .inr ⟨digit, h⟩
    · cases h

theorem value?_append {v : Value} {x : Float} (mark : EndsNumber c)
    (h : value? round text = some (v, rest)) (number : v.number? = some x) :
    value? round (text ++ c :: behind) = some (v, rest ++ c :: behind) := by
  cases text with
  | nil => cases h
  | cons d tail =>
      obtain ⟨rfl, read⟩ | ⟨digit, read⟩ := number_cases h number
      · exact unsignedNumber?_append mark read
      · rw [List.cons_append, value?_of_isDigit digit, ← List.cons_append]
        exact unsignedNumber?_append mark read

end Numbers

section Strings

theorem stringChar?_of_isPlain {c : Char} {rest : List Char} (plain : IsPlain c) :
    stringChar? (c :: rest) = some (c, rest) := by
  have visible : ¬ (c = '\\' ∨ c.toNat < 0x20) := by
    rintro (rfl | control)
    · exact plain.2.2 rfl
    · exact absurd (Nat.le_trans plain.1 (Nat.le_of_lt control)) (by decide)
  unfold stringChar?
  split
  case h_1 same =>
    cases same
    exact absurd rfl plain.2.2
  case h_2 same =>
    cases same
    exact absurd rfl plain.2.2
  case h_3 same =>
    cases same
    exact if_neg visible
  case h_4 same => cases same

theorem stringBody?_append {body : List Char} (plain : Plain body) (rest : List Char) :
    stringBody? (body ++ '"' :: rest) = some (body, rest) := by
  induction body with
  | nil => rw [List.nil_append, stringBody?]
  | cons c body ih =>
      obtain ⟨first, plain⟩ := plain_cons.mp plain
      have notQuote : ∀ tail, c :: (body ++ '"' :: rest) = '"' :: tail → False := by
        rintro tail ⟨⟩
        exact absurd first (by decide)
      have shorter : (body ++ '"' :: rest).length < (c :: (body ++ '"' :: rest)).length :=
        Nat.lt_succ_self _
      rw [List.cons_append, stringBody?.eq_2 _ notQuote, stringChar?_of_isPlain first]
      simp only [if_pos shorter, ih plain, Option.map_some]

theorem value?_string {round : Rounding} {body : List Char} (plain : Plain body)
    (rest : List Char) :
    value? round ('"' :: (body ++ '"' :: rest)) = some (.string body, rest) := by
  simp only [value?, stringBody?_append plain, Option.map_some]

end Strings

section Members

theorem skipSpace_cons {c : Char} (visible : isSpace c = false) (rest : List Char) :
    skipSpace (c :: rest) = c :: rest := by
  rw [skipSpace, List.dropWhile_cons, visible]
  rfl

theorem isSpace_of_isPlain {c : Char} (plain : IsPlain c) : isSpace c = false :=
  of_ascii (P := fun c => IsPlain c → isSpace c = false) plain.toNat_lt (by decide +kernel) plain

variable {round : Rounding} {key text rest behind : List Char} {v : Value}

theorem afterColon?_cons (text : List Char) :
    afterColon? round (':' :: text) = value? round (skipSpace text) := by
  rw [afterColon?, skipSpace_cons (by decide)]
  rfl

theorem members_of_closed (plain : Plain key)
    (read : value? round (skipSpace text) = some (v, rest)) (array : v ≠ .array)
    (object : v ≠ .object) (closed : nextTurn rest = .closed behind) :
    members round (key ++ '"' :: ':' :: text) = .member key v (.closed behind) := by
  rw [members, stringBody?_append plain]
  simp only [afterColon?_cons, read, closed]

theorem members_of_key (plain : Plain key)
    (read : value? round (skipSpace text) = some (v, rest)) (array : v ≠ .array)
    (object : v ≠ .object) (next : nextTurn rest = .key behind)
    (shorter : behind.length < text.length) :
    members round (key ++ '"' :: ':' :: text) = .member key v (members round behind) := by
  have inside : behind.length < (key ++ '"' :: ':' :: text).length := by
    rw [List.length_append]
    simp only [List.length_cons]
    omega
  rw [members, stringBody?_append plain]
  simp only [afterColon?_cons, read, next, if_pos inside]

theorem keyTurn_quote (rest : List Char) : keyTurn ('"' :: rest) = .key rest := by
  rw [keyTurn, skipSpace_cons (by decide)]
  rfl

theorem firstMembers_quote (rest : List Char) :
    firstMembers round ('"' :: rest) = members round rest := by
  have turn : firstTurn ('"' :: rest) = .key rest := by
    rw [firstTurn, skipSpace_cons (by decide)]
    exact keyTurn_quote rest
  rw [firstMembers, turn]

theorem nextTurn_comma (rest : List Char) : nextTurn (',' :: '"' :: rest) = .key rest := by
  rw [nextTurn, skipSpace_cons (by decide)]
  exact keyTurn_quote rest

end Members

end Dimensional.Json
