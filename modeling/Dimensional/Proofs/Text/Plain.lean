import Dimensional.Proofs.Dimension.Canonical
import Dimensional.Proofs.Number.Digits
import Dimensional.Proofs.Text.Classes
import Dimensional.Quantity

/-!
Numbers and canonical unit expressions are written in plain characters: without blanks, quotes,
backslashes and control characters.
-/

namespace Dimensional

namespace Text

def IsPlain (c : Char) : Prop :=
  '('.toNat ≤ c.toNat ∧ c.toNat ≤ 'z'.toNat ∧ c ≠ '\\'

instance (c : Char) : Decidable (IsPlain c) :=
  inferInstanceAs (Decidable (_ ∧ _))

def Plain (text : List Char) : Prop :=
  ∀ c ∈ text, IsPlain c

instance (text : List Char) : Decidable (Plain text) :=
  List.decidableBAll IsPlain text

theorem IsPlain.toNat_lt {c : Char} (h : IsPlain c) : c.toNat < 128 :=
  Nat.lt_of_le_of_lt h.2.1 (by decide)

theorem isPlain_of_isDigit {c : Char} (h : c.isDigit = true) : IsPlain c := by
  have small := toNat_lt_of_isDigit h
  revert h
  exact of_ascii (P := fun c => c.isDigit = true → IsPlain c) small (by decide +kernel)

@[simp] theorem plain_nil : Plain [] := by
  simp [Plain]

@[simp] theorem plain_cons {c : Char} {text : List Char} :
    Plain (c :: text) ↔ IsPlain c ∧ Plain text := by
  simp [Plain]

@[simp] theorem plain_append {text rest : List Char} :
    Plain (text ++ rest) ↔ Plain text ∧ Plain rest := by
  simp [Plain, or_imp, forall_and]

theorem Plain.sublist {text part : List Char} (plain : Plain text) (h : part.Sublist text) :
    Plain part :=
  fun c mem => plain c (h.mem mem)

theorem forall_mem_intercalate {P : Char → Prop} {mark : List Char} {texts : List (List Char)}
    (marks : ∀ c ∈ mark, P c) (each : ∀ text ∈ texts, ∀ c ∈ text, P c) :
    ∀ c ∈ mark.intercalate texts, P c := by
  induction texts with
  | nil => exact fun _ => nofun
  | cons text rest ih =>
      have behind := ih fun text mem => each text (List.mem_cons_of_mem _ mem)
      cases rest with
      | nil =>
          rw [List.intercalate_singleton]
          exact each text List.mem_cons_self
      | cons next rest =>
          rw [List.intercalate_cons_cons]
          intro c mem
          rcases List.mem_append.mp mem with front | mem
          · rcases List.mem_append.mp front with mem | mem
            · exact each text List.mem_cons_self c mem
            · exact marks c mem
          · exact behind c mem

theorem plain_intercalate {mark : List Char} {texts : List (List Char)} (plain : Plain mark)
    (each : ∀ text ∈ texts, Plain text) : Plain (mark.intercalate texts) :=
  forall_mem_intercalate plain each

end Text

namespace Number

open Text

theorem plain_natText (n : Nat) : Plain (natText n) :=
  fun _ mem => isPlain_of_isDigit (isDigit_of_mem_natText mem)

theorem plain_intText (n : Int) : Plain (intText n) := by
  rw [intText]
  split
  · exact plain_cons.mpr ⟨by decide, plain_natText _⟩
  · exact plain_natText _

theorem plain_zeros (n : Nat) : Plain (List.replicate n '0') := by
  intro c mem
  obtain ⟨-, rfl⟩ := List.mem_replicate.mp mem
  decide

theorem Decimal.plain_positional (d : Decimal) (pointZero : Bool) :
    Plain (d.positional pointZero) := by
  have digits := plain_natText d.digits
  simp only [Decimal.positional]
  split
  · refine plain_append.mpr ⟨plain_append.mpr ⟨digits, plain_zeros _⟩, ?_⟩
    cases pointZero <;> decide
  · split
    · exact plain_append.mpr ⟨plain_append.mpr ⟨by decide, plain_zeros _⟩, digits⟩
    · refine plain_append.mpr ⟨digits.sublist (List.take_sublist _ _), ?_⟩
      exact plain_cons.mpr ⟨by decide, digits.sublist (List.drop_sublist _ _)⟩

theorem Decimal.plain_scientific (d : Decimal) (plusSign : Bool) :
    Plain (d.scientific plusSign) := by
  have digits := plain_natText d.digits
  have fraction := digits.sublist (List.drop_sublist 1 _)
  simp only [Decimal.scientific]
  refine plain_append.mpr ⟨plain_append.mpr ⟨digits.sublist (List.take_sublist _ _), ?_⟩, ?_⟩
  · split
    · exact plain_nil
    · exact plain_cons.mpr ⟨by decide, fraction⟩
  · refine plain_cons.mpr ⟨by decide, plain_append.mpr ⟨?_, plain_intText _⟩⟩
    split <;> decide

theorem plain_signed (negative : Bool) {text : List Char} (plain : Plain text) :
    Plain (signed negative text) := by
  cases negative with
  | true => exact plain_cons.mpr ⟨by decide, plain⟩
  | false => exact plain

theorem Layout.plain_render (layout : Layout) (x : Float) : Plain (layout.render x) := by
  unfold Layout.render
  split
  · decide
  · exact plain_signed _ (by decide)
  · refine plain_signed _ ?_
    unfold Layout.decimal
    split
    · exact Decimal.plain_positional _ _
    · exact Decimal.plain_scientific _ _

end Number

namespace Dimension

open Text Number

theorem plain_symbol (q : Base) : Plain q.symbol.toList := by
  cases q <;> decide

theorem plain_term (q : Base) (e : Rat) : Plain (term q.symbol.toList e) := by
  have symbol := plain_symbol q
  rw [term]
  split
  · exact symbol
  · split
    · exact plain_append.mpr ⟨symbol, plain_cons.mpr ⟨by decide, plain_intText _⟩⟩
    · simp only [plain_append, plain_cons, plain_intText, plain_natText, symbol, true_and]
      decide

theorem plain_leadText (d : Dimension) : Plain d.leadText := by
  rw [leadText]
  split
  · split <;> decide
  · rw [numerators_eq]
    refine plain_intercalate (by decide) ?_
    intro text mem
    obtain ⟨q, -, rfl⟩ := List.mem_map.mp mem
    exact plain_term q _

theorem plain_unitText (d : Dimension) : Plain d.unitText := by
  rw [unitText, denominators_eq]
  refine plain_append.mpr ⟨plain_leadText d, ?_⟩
  rw [List.flatMap_map]
  intro c mem
  obtain ⟨q, -, c_mem⟩ := List.mem_flatMap.mp mem
  exact plain_cons.mpr ⟨by decide, plain_term q _⟩ c c_mem

theorem plain_display (d : Dimension) : Plain d.display := by
  rw [display]
  split
  · decide
  · exact plain_unitText d

end Dimension

end Dimensional
