import Dimensional.Text.Quoted
import Dimensional.Toml.Quoted

/-!
Quoted text is read back as it was: the escapes stand for the characters that were escaped, and no
character of the text is taken for the closing quote.
-/

namespace Dimensional.Text

section Hexadecimal

open Toml.Quoted (hexNumber?)

theorem hexValue?_digitChar {n : Nat} (h : n < 16) : hexValue? n.digitChar = some n := by
  have each : ∀ m : Fin 16, hexValue? m.val.digitChar = some m.val := by decide
  exact each ⟨n, h⟩

theorem hexNumber?_concat {digits : List Char} {c : Char} {n m : Nat}
    (front : hexNumber? digits = some n) (last : hexValue? c = some m) :
    hexNumber? (digits ++ [c]) = some (n * 16 + m) := by
  rw [hexNumber?] at front
  simp [hexNumber?, List.foldlM_append, front, last]

variable {n : Nat} {c : Char}

theorem hexDigits_of_lt (small : n < 16) : Quoted.hexDigits n = [n.digitChar] :=
  Nat.toDigits_of_lt_base small

theorem hexDigits_of_le (large : 16 ≤ n) :
    Quoted.hexDigits n = Quoted.hexDigits (n / 16) ++ [(n % 16).digitChar] :=
  Nat.toDigits_of_base_le (by decide) large

theorem hexNumber?_hexDigits (n : Nat) : hexNumber? (Quoted.hexDigits n) = some n := by
  induction n using Nat.strongRecOn with
  | ind n ih =>
      rcases Nat.lt_or_ge n 16 with small | large
      · rw [hexDigits_of_lt small]
        simp [hexNumber?, hexValue?_digitChar small]
      · rw [hexDigits_of_le large, hexNumber?_concat (ih (n / 16) (by omega))
          (hexValue?_digitChar (Nat.mod_lt n (by decide))), Nat.div_add_mod']

theorem exists_of_mem_hexDigits (h : c ∈ Quoted.hexDigits n) :
    ∃ m : Fin 16, c = m.val.digitChar := by
  induction n using Nat.strongRecOn with
  | ind n ih =>
      rcases Nat.lt_or_ge n 16 with small | large
      · rw [hexDigits_of_lt small, List.mem_singleton] at h
        exact ⟨⟨n, small⟩, h⟩
      · rw [hexDigits_of_le large, List.mem_append, List.mem_singleton] at h
        rcases h with front | last
        · exact ih (n / 16) (by omega) front
        · exact ⟨⟨n % 16, Nat.mod_lt n (by decide)⟩, last⟩

theorem ne_of_mem_hexDigits (h : c ∈ Quoted.hexDigits n) : c ≠ '\x7d' := by
  have each : ∀ m : Fin 16, m.val.digitChar ≠ '\x7d' := by decide
  obtain ⟨m, rfl⟩ := exists_of_mem_hexDigits h
  exact each m

theorem scalarValue?_toNat (c : Char) : Toml.Quoted.scalarValue? c.toNat = some c := by
  have valid : c.toNat.isValidChar := c.valid
  rw [Toml.Quoted.scalarValue?, if_pos valid, Char.ofNat_toNat]

end Hexadecimal

namespace Quoted

/-- The character that is written behind a backslash. -/
def escaped? : List Char → Option (Char × List Char)
  | 't' :: rest => some ('\t', rest)
  | 'n' :: rest => some ('\n', rest)
  | 'r' :: rest => some ('\r', rest)
  | '0' :: rest => some ('\x00', rest)
  | '\\' :: rest => some ('\\', rest)
  | '"' :: rest => some ('"', rest)
  | 'u' :: '\x7b' :: rest => do
      let n ← Toml.Quoted.hexNumber? (rest.takeWhile (· != '\x7d'))
      let c ← Toml.Quoted.scalarValue? n
      some (c, (rest.dropWhile (· != '\x7d')).tail)
  | _ => none

def character? : List Char → Option (Char × List Char)
  | '\\' :: rest => escaped? rest
  | c :: rest => some (c, rest)
  | [] => none

/-- What stands in front of the closing quote, and the text behind the quote. -/
def body? (text : List Char) : Option (List Char × List Char) :=
  if text.head? = some '"' then some ([], text.tail)
  else
    match character? text with
    | some (c, rest) =>
        if rest.length < text.length then (body? rest).map fun (body, last) => (c :: body, last)
        else none
    | none => none
termination_by text.length

def read? : List Char → Option (List Char × List Char)
  | '"' :: rest => body? rest
  | _ => none

section

variable (c : Char) (rest : List Char)

theorem character?_of_ne {c : Char} (plain : c ≠ '\\') :
    character? (c :: rest) = some (c, rest) := by
  unfold character?
  split <;> simp_all

theorem escaped?_hexDigits :
    escaped? ('u' :: '\x7b' :: (hexDigits c.toNat ++ '\x7d' :: rest)) = some (c, rest) := by
  have inside : ∀ d ∈ hexDigits c.toNat, (d != '\x7d') = true :=
    fun d mem => bne_iff_ne.mpr (ne_of_mem_hexDigits mem)
  rw [escaped?, List.takeWhile_append_of_pos inside, List.dropWhile_append_of_pos inside,
    List.takeWhile_cons_of_neg (by decide), List.dropWhile_cons_of_neg (by decide),
    List.append_nil, hexNumber?_hexDigits]
  simp [scalarValue?_toNat]

theorem character?_escape : character? (escape '"' c ++ rest) = some (c, rest) := by
  unfold escape
  split
  case isTrue h => subst h; rfl
  split
  case isTrue h => subst h; rfl
  split
  case isTrue h => subst h; rfl
  split
  case isTrue h =>
    obtain rfl : c = '\x00' := Char.toNat_inj.mp h
    rfl
  split
  case isTrue h => rcases h with rfl | rfl <;> rfl
  split
  case isTrue ordinary _ => exact character?_of_ne rest fun h => ordinary (.inl h)
  case isFalse =>
    rw [← escaped?_hexDigits c rest]
    simp [character?]

theorem escape_ne_nil : escape '"' c ≠ [] := by
  unfold escape
  repeat' split
  all_goals simp

theorem head?_escape : (escape '"' c).head? ≠ some '"' := by
  unfold escape
  repeat' split
  all_goals simp_all

end

theorem body?_escape (text rest : List Char) :
    body? (text.flatMap (escape '"') ++ '"' :: rest) = some (text, rest) := by
  induction text with
  | nil => rw [body?]; rfl
  | cons c text ih =>
      have shorter : (text.flatMap (escape '"') ++ '"' :: rest).length <
          (escape '"' c ++ (text.flatMap (escape '"') ++ '"' :: rest)).length := by
        have := List.length_pos_iff.mpr (escape_ne_nil c)
        simp only [List.length_append]
        omega
      have open? : (escape '"' c ++ (text.flatMap (escape '"') ++ '"' :: rest)).head? ≠
          some '"' := by
        obtain ⟨d, tail, shape⟩ := List.exists_cons_of_ne_nil (escape_ne_nil c)
        have := head?_escape c
        rw [shape] at this ⊢
        exact this
      rw [List.flatMap_cons, List.append_assoc, body?, if_neg open?, character?_escape]
      simp only [if_pos shorter, ih, Option.map_some]

/-- What is quoted is written in characters with a visible form, but for the mark. -/
theorem isVisible_or_eq_of_mem_escape {mark c x : Char} (mem : x ∈ escape mark c) :
    isVisible x = true ∨ x = mark := by
  have literal {word : List Char} (visible : word.all isVisible = true) (mem : x ∈ word) :
      isVisible x = true ∨ x = mark :=
    .inl (List.all_eq_true.mp visible x mem)
  unfold escape at mem
  split at mem
  case isTrue => exact literal (by decide) mem
  split at mem
  case isTrue => exact literal (by decide) mem
  split at mem
  case isTrue => exact literal (by decide) mem
  split at mem
  case isTrue => exact literal (by decide) mem
  split at mem
  case isTrue escaped =>
    rcases List.mem_cons.mp mem with rfl | mem
    · exact .inl (by decide)
    · obtain rfl := List.mem_singleton.mp mem
      rcases escaped with rfl | marks
      · exact .inl (by decide)
      · exact .inr marks
  split at mem
  case isTrue visible => exact .inl (List.mem_singleton.mp mem ▸ visible)
  case isFalse =>
    rcases List.mem_append.mp mem with mem | last
    · rcases List.mem_append.mp mem with first | mem
      · exact literal (by decide) first
      · have each : ∀ m : Fin 16, isVisible m.val.digitChar = true := by decide
        obtain ⟨m, rfl⟩ := exists_of_mem_hexDigits mem
        exact .inl (each m)
    · exact literal (by decide) last

theorem isVisible_or_eq_of_mem_write {mark x : Char} {text : List Char}
    (mem : x ∈ write mark text) : isVisible x = true ∨ x = mark := by
  rcases List.mem_cons.mp mem with first | mem
  · exact .inr first
  · rcases List.mem_append.mp mem with inside | last
    · obtain ⟨c, -, mem⟩ := List.mem_flatMap.mp inside
      exact isVisible_or_eq_of_mem_escape mem
    · exact .inr (List.mem_singleton.mp last)

end Quoted

theorem isVisible_of_mem_quote {text : List Char} {x : Char} (mem : x ∈ quote text) :
    isVisible x = true := by
  rcases Quoted.isVisible_or_eq_of_mem_write mem with visible | rfl
  · exact visible
  · decide

theorem read?_quote (text rest : List Char) :
    Quoted.read? (quote text ++ rest) = some (text, rest) := by
  rw [quote, Quoted.write, List.cons_append, List.append_assoc, Quoted.read?]
  exact Quoted.body?_escape text rest

end Dimensional.Text
