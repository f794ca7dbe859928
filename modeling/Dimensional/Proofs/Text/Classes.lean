import Dimensional.Text.Alphabetic
import Dimensional.Text.Blank

/-!
Blanks, letters and digits are three classes without common members.
-/

namespace Dimensional.Text

namespace CharTable

theorem covers_eq_true_iff {table : CharTable} {code : Nat} :
    table.covers code = true ↔ ∃ range ∈ table, range.1 ≤ code ∧ code ≤ range.2 := by
  simp [covers]

/-- Tables whose ranges do not meet cover nothing in common. -/
theorem covers_eq_false_of_apart {table other : CharTable}
    (apart : ∀ r ∈ table, ∀ s ∈ other, r.2 < s.1 ∨ s.2 < r.1) {code : Nat}
    (h : table.covers code = true) : other.covers code = false := by
  rw [Bool.eq_false_iff]
  intro both
  obtain ⟨r, hr, lowR, highR⟩ := covers_eq_true_iff.mp h
  obtain ⟨s, hs, lowS, highS⟩ := covers_eq_true_iff.mp both
  have := apart r hr s hs
  omega

end CharTable

/-- A fact about one character of ASCII, from all of them checked one by one. -/
theorem of_ascii {P : Char → Prop} {c : Char} (small : c.toNat < 128)
    (each : ∀ code < 128, P (Char.ofNat code)) : P c :=
  Char.ofNat_toNat c ▸ each c.toNat small

theorem toNat_lt_of_isDigit {c : Char} (h : c.isDigit = true) : c.toNat < 128 := by
  have bounds : '0'.toNat ≤ c.toNat ∧ c.toNat ≤ '9'.toNat := by
    simpa [Char.isDigit, UInt32.le_iff_toNat_le] using h
  exact Nat.lt_of_le_of_lt bounds.2 (by decide)

theorem isAlphabetic_of_isBlank {c : Char} (h : isBlank c = true) : isAlphabetic c = false := by
  by_cases small : c.toNat < 128
  · revert h
    exact of_ascii (P := fun c => isBlank c = true → isAlphabetic c = false) small
      (by decide +kernel)
  · simp only [isBlank, isAlphabetic, if_neg small] at h ⊢
    exact CharTable.covers_eq_false_of_apart (by decide +kernel) h

theorem isAlphabetic_of_isDigit {c : Char} (h : c.isDigit = true) : isAlphabetic c = false := by
  have small := toNat_lt_of_isDigit h
  revert h
  exact of_ascii (P := fun c => c.isDigit = true → isAlphabetic c = false) small (by decide +kernel)

theorem isBlank_of_isDigit {c : Char} (h : c.isDigit = true) : isBlank c = false := by
  have small := toNat_lt_of_isDigit h
  revert h
  exact of_ascii (P := fun c => c.isDigit = true → isBlank c = false) small (by decide +kernel)

theorem isDigit_of_isBlank {c : Char} (h : isBlank c = true) : c.isDigit = false := by
  rw [Bool.eq_false_iff]
  intro digit
  simp [isBlank_of_isDigit digit] at h

theorem isDigit_of_isAlphabetic {c : Char} (h : isAlphabetic c = true) : c.isDigit = false := by
  rw [Bool.eq_false_iff]
  intro digit
  simp [isAlphabetic_of_isDigit digit] at h

theorem isBlank_of_isAlphabetic {c : Char} (h : isAlphabetic c = true) : isBlank c = false := by
  rw [Bool.eq_false_iff]
  intro blank
  simp [isAlphabetic_of_isBlank blank] at h

end Dimensional.Text
