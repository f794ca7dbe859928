import Mathlib.Data.List.TakeWhile
import Dimensional.Handles.Buffer
import Dimensional.Proofs.Text.Plain
import Dimensional.Proofs.Units.Canonical

/-!
Texts through byte buffers.  A text that fits into a buffer is found there up to the zero byte, and
what stands behind the first blank of the text of a quantity is its canonical unit.
-/

namespace Dimensional.Handles

open Text

theorem textBytes_ofList (text : List Char) :
    textBytes (String.ofList text) = text.flatMap String.utf8EncodeChar := by
  simp [textBytes, String.toUTF8, List.utf8Encode]

theorem textBytes_injective {s t : String} (h : textBytes s = textBytes t) : s = t := by
  apply String.toByteArray_inj.mp
  apply ByteArray.ext
  exact Array.toList_inj.mp h

def isBlank (byte : UInt8) : Bool :=
  byte == 32

theorem byte_of_isPlain {c : Char} (plain : IsPlain c) :
    ∀ byte ∈ String.utf8EncodeChar c, byte ≠ 0 ∧ isBlank byte = false :=
  of_ascii (P := fun c => IsPlain c →
    ∀ byte ∈ String.utf8EncodeChar c, byte ≠ 0 ∧ isBlank byte = false)
    plain.toNat_lt (by decide +kernel) plain

theorem byte_of_plain {text : List Char} (plain : Plain text) {byte : UInt8}
    (mem : byte ∈ textBytes (String.ofList text)) : byte ≠ 0 ∧ isBlank byte = false := by
  rw [textBytes_ofList] at mem
  obtain ⟨c, c_mem, byte_mem⟩ := List.mem_flatMap.mp mem
  exact byte_of_isPlain (plain c c_mem) byte byte_mem

theorem untilZero_copyInto {text buffer : Bytes} (nonzero : ∀ byte ∈ text, byte ≠ 0)
    (room : text.length < buffer.length) : untilZero (copyInto text buffer) = text := by
  have nonempty : buffer.isEmpty = false := by
    cases buffer with
    | nil => exact absurd room (Nat.not_lt_zero _)
    | cons => rfl
  have whole : text.take (buffer.length - 1) = text := List.take_of_length_le (by omega)
  have counted : ∀ byte ∈ text, (byte != 0) = true := fun byte mem => by simp [nonzero byte mem]
  simp [untilZero, copyInto, nonempty, whole, List.takeWhile_append_of_pos counted]

theorem decodeText?_of_untilZero {bytes : Bytes} {s : String} (h : untilZero bytes = textBytes s) :
    decodeText? bytes = some s := by
  rw [decodeText?, h]
  have valid : s.toUTF8.IsValidUTF8 := s.isValidUTF8
  exact dif_pos valid

theorem decodeText?_textBytes {s : String} (nonzero : ∀ byte ∈ textBytes s, byte ≠ 0) :
    decodeText? (textBytes s) = some s :=
  decodeText?_of_untilZero
    (List.takeWhile_eq_self_iff.mpr fun byte mem => by simp [nonzero byte mem])

/-- What stands behind the first blank, and nothing where that says that there is no unit. -/
def unitPart (bytes : Bytes) : Bytes :=
  let unit := (bytes.dropWhile (! isBlank ·)).drop 1
  if unit = textBytes "(unitless)" then [] else unit

theorem behind_blank {number unit : List Char} (plain : Plain number) :
    ((textBytes (String.ofList (number ++ ' ' :: unit))).dropWhile (! isBlank ·)).drop 1 =
      textBytes (String.ofList unit) := by
  have before : ∀ byte ∈ textBytes (String.ofList number), (! isBlank byte) = true :=
    fun byte mem => by simp [(byte_of_plain plain mem).2]
  rw [textBytes_ofList] at before
  rw [textBytes_ofList, List.flatMap_append, List.dropWhile_append_of_pos before,
    textBytes_ofList]
  rfl

theorem nonzero_text {q : Quantity} {byte : UInt8} (mem : byte ∈ textBytes q.text) : byte ≠ 0 := by
  rw [Quantity.text, Quantity.display, textBytes_ofList, List.flatMap_append,
    List.flatMap_cons, ← textBytes_ofList, ← textBytes_ofList] at mem
  rcases List.mem_append.mp mem with number | rest
  · exact (byte_of_plain (Number.Layout.plain_render _ _) number).1
  · rcases List.mem_append.mp rest with blank | unit
    · rintro rfl
      exact absurd blank (by decide)
    · exact (byte_of_plain (Dimension.plain_display _) unit).1

theorem unitText_ne_unitless {d : Dimension} (range : d.InRange) :
    d.unitText ≠ "(unitless)".toList := by
  intro same
  have read := Units.Registry.read_unitText range
  rw [same] at read
  have refused : (Units.Registry.standard.read "(unitless)".toList).toOption = none := by
    decide +kernel
  rw [read] at refused
  cases refused

theorem unitPart_text {q : Quantity} (range : q.dimension.InRange) :
    unitPart (textBytes q.text) = textBytes (String.ofList q.dimension.unitText) := by
  rw [Quantity.text, Quantity.display, unitPart, behind_blank (Number.Layout.plain_render _ _)]
  by_cases unitless : q.dimension.isUnitless = true
  · rw [Dimension.display, if_pos unitless, String.ofList_toList, if_pos rfl,
      Dimension.isUnitless_iff.mp unitless]
    decide +kernel
  · rw [Dimension.display, if_neg unitless, if_neg]
    intro same
    apply unitText_ne_unitless range
    rw [← textBytes_injective same, String.toList_ofList]

end Dimensional.Handles
