import Dimensional.Number.Reading
import Dimensional.Number.Layout

/-!
Numbers written in decimal digits are read back as they were.
-/

namespace Dimensional.Number

theorem natText_ne_nil (n : Nat) : natText n ≠ [] :=
  Nat.toDigits_ne_nil

theorem isDigit_of_mem_natText {n : Nat} {c : Char} (h : c ∈ natText n) : c.isDigit = true :=
  Nat.isDigit_of_mem_toDigits (by decide) (by decide) h

@[simp] theorem natOfDigits_natText (n : Nat) : natOfDigits (natText n) = n := by
  have digits := Nat.ofDigitChars_ten_toDigits (n := n)
  rw [Nat.ofDigitChars_eq_foldl] at digits
  simp only [Nat.mul_comm 10] at digits
  exact digits

theorem digitsOnly?_natText (n : Nat) : digitsOnly? (natText n) = some n := by
  have digits : ¬((natText n).isEmpty = true ∨ (!(natText n).all Char.isDigit) = true) := by
    rw [List.isEmpty_iff, Bool.not_eq_true', not_or, Bool.not_eq_false]
    exact ⟨natText_ne_nil n, List.all_eq_true.mpr fun _ mem => isDigit_of_mem_natText mem⟩
  rw [digitsOnly?, if_neg digits, natOfDigits_natText]

theorem natText_ne_cons {n : Nat} {c : Char} {rest : List Char} (h : c.isDigit = false) :
    natText n ≠ c :: rest := by
  intro same
  have digit : c.isDigit = true := isDigit_of_mem_natText (same ▸ List.mem_cons_self)
  rw [h] at digit
  contradiction

theorem signedInt?_intText (n : Int) : signedInt? (intText n) = some n := by
  rw [intText]
  split
  case isTrue negative =>
    have value : -(n.natAbs : Int) = n := by omega
    rw [signedInt?, digitsOnly?_natText]
    exact congrArg some value
  case isFalse natural =>
    have value : (n.natAbs : Int) = n := by omega
    unfold signedInt?
    split
    case h_1 same => exact absurd same (natText_ne_cons (by decide))
    case h_2 same => exact absurd same (natText_ne_cons (by decide))
    case h_3 =>
      rw [digitsOnly?_natText]
      exact congrArg some value

theorem int32?_intText {text : List Char} {n : Int} (h : int32? text = some n) :
    int32? (intText n) = some n := by
  obtain ⟨-, range⟩ := Option.filter_eq_some_iff.mp h
  exact Option.filter_eq_some_iff.mpr ⟨signedInt?_intText n, range⟩

end Dimensional.Number
