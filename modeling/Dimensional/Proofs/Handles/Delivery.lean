import Dimensional.Proofs.Handles.Refinement
import Dimensional.Proofs.Text.Quoted

/-!
Texts handed over in two calls, one that asks for the length and one with a buffer of that length
and a byte more.  No message and no quantity is written with a zero character, so that the text ends
where the caller takes it to end.
-/

namespace Dimensional

namespace Text

/-- A byte string that holds the text ends where the text does. -/
def Unbroken (text : String) : Prop :=
  '\x00' ∉ text.toList

instance (text : String) : Decidable (Unbroken text) :=
  inferInstanceAs (Decidable (_ ∉ _))

theorem Unbroken.append {front back : String} (hFront : Unbroken front) (hBack : Unbroken back) :
    Unbroken (front ++ back) := by
  rw [Unbroken, String.toList_append, List.mem_append]
  exact not_or_intro hFront hBack

theorem unbroken_of_plain {text : List Char} (plain : Plain text) :
    Unbroken (String.ofList text) := by
  intro mem
  rw [String.toList_ofList] at mem
  exact absurd (plain _ mem) (by decide)

theorem unbroken_toString (n : Nat) : Unbroken (toString n) :=
  unbroken_of_plain (Number.plain_natText n)

theorem notMem_write {mark : Char} (marked : mark ≠ '\x00') (text : List Char) :
    '\x00' ∉ Quoted.write mark text := by
  intro mem
  rcases Quoted.isVisible_or_eq_of_mem_write mem with visible | marks
  · exact absurd visible (by decide)
  · exact marked marks.symm

theorem unbroken_quoteString (text : String) : Unbroken (quoteString text) := by
  rw [Unbroken, quoteString, String.toList_ofList]
  exact notMem_write (by decide) _

theorem unbroken_quoteCharString (c : Char) : Unbroken (quoteCharString c) := by
  rw [Unbroken, quoteCharString, String.toList_ofList]
  exact notMem_write (by decide) _

end Text

open Text

/-! Every part of a message that is not worded here is quoted, a number or a unit. -/

theorem Wanted.unbroken_phrase (wanted : Wanted) : Unbroken wanted.phrase := by
  cases wanted <;> decide +kernel

theorem Wanted.unbroken_endedPhrase (wanted : Wanted) : Unbroken wanted.endedPhrase := by
  cases wanted <;> decide +kernel

theorem SyntaxReason.unbroken_message (reason : SyntaxReason) : Unbroken reason.message := by
  cases reason with
  | unexpected found offset =>
      refine .append (.append (.append ?_ (unbroken_quoteCharString found)) ?_)
        (unbroken_toString offset)
      all_goals decide +kernel
  | missing wanted found offset =>
      refine .append (.append (.append (.append wanted.unbroken_phrase ?_)
        (unbroken_toString offset)) ?_) (unbroken_quoteCharString found)
      all_goals decide +kernel
  | ended wanted => exact wanted.unbroken_endedPhrase
  | bareNumber digits offset =>
      refine .append (.append (.append (.append ?_ (unbroken_quoteString digits)) ?_)
        (unbroken_toString offset)) ?_
      all_goals decide +kernel
  | exponentTooLarge digits =>
      refine .append (.append ?_ (unbroken_quoteString digits)) ?_
      all_goals decide +kernel
  | nestedTooDeeply | zeroDenominator | exponentOverflow => decide +kernel

theorem Operation.unbroken_name (op : Operation) : Unbroken op.name := by
  cases op <;> decide +kernel

theorem Dimension.unbroken_text (d : Dimension) : Unbroken d.text :=
  unbroken_of_plain d.plain_display

theorem Number.unbroken_plainText (x : Float) : Unbroken (plainText x) :=
  unbroken_of_plain (Layout.plain_render plain x)

theorem Failure.unbroken_message (f : Failure) : Unbroken f.message := by
  cases f with
  | invalidUnitSyntax unit reason =>
      refine .append (.append (.append ?_ (unbroken_quoteString unit)) ?_) reason.unbroken_message
      all_goals decide +kernel
  | unknownUnitSymbol unit symbol =>
      refine .append (.append (.append ?_ (unbroken_quoteString symbol)) ?_)
        (unbroken_quoteString unit)
      all_goals decide +kernel
  | dimensionMismatch left right =>
      refine .append (.append (.append ?_ left.unbroken_text) ?_) right.unbroken_text
      all_goals decide +kernel
  | requiresUnitless op d | requiresAngleOrUnitless op d =>
      refine .append (.append op.unbroken_name ?_) d.unbroken_text
      decide +kernel
  | domain op x =>
      refine .append (.append op.unbroken_name ?_) (Number.unbroken_plainText x)
      decide +kernel
  | nonIntegralDimension op d x =>
      refine .append (.append (.append (.append (.append op.unbroken_name ?_)
        (Number.unbroken_plainText x)) ?_) d.unbroken_text) ?_
      all_goals decide +kernel
  | exponentOverflow op d =>
      refine .append (.append (.append op.unbroken_name ?_) d.unbroken_text) ?_
      all_goals decide +kernel

namespace Handles

theorem Cause.unbroken_message (cause : Cause) : Unbroken cause.message := by
  cases cause with
  | null parameter | notUtf8 parameter => cases parameter <;> decide +kernel
  | refused f => exact f.unbroken_message

theorem Session.unbroken_errorMessage (session : Session) : Unbroken session.errorMessage := by
  unfold errorMessage
  split
  · exact Cause.unbroken_message _
  · decide +kernel

/-! Through bytes and buffers. -/

theorem ofNat_ne_zero {n : Nat} (positive : 0 < n) (small : n < 256) : UInt8.ofNat n ≠ 0 := by
  intro zero
  have same := congrArg UInt8.toNat zero
  rw [UInt8.toNat_ofNat_of_lt' small] at same
  exact absurd same (Nat.ne_of_gt positive)

theorem byte_ne_zero {c : Char} (nonzero : c ≠ '\x00') {byte : UInt8}
    (mem : byte ∈ String.utf8EncodeChar c) : byte ≠ 0 := by
  have positive : 0 < c.val.toNat :=
    Nat.pos_of_ne_zero fun zero => nonzero (Char.toNat_inj.mp zero)
  simp only [String.utf8EncodeChar] at mem
  -- A byte that is not the whole character has its upper bit set.
  split at mem
  · obtain rfl := List.mem_singleton.mp mem
    exact ofNat_ne_zero positive (by omega)
  · repeat' split at mem
    all_goals simp only [List.mem_cons, List.not_mem_nil, or_false] at mem
    · rcases mem with rfl | rfl <;> exact ofNat_ne_zero (by omega) (by omega)
    · rcases mem with rfl | rfl | rfl <;> exact ofNat_ne_zero (by omega) (by omega)
    · rcases mem with rfl | rfl | rfl | rfl <;> exact ofNat_ne_zero (by omega) (by omega)

theorem nonzero_of_unbroken {text : String} (unbroken : Unbroken text) {byte : UInt8}
    (mem : byte ∈ textBytes text) : byte ≠ 0 := by
  rw [← String.ofList_toList (s := text), textBytes_ofList] at mem
  obtain ⟨c, c_mem, byte_mem⟩ := List.mem_flatMap.mp mem
  exact byte_ne_zero (fun zero => unbroken (zero ▸ c_mem)) byte_mem

theorem getElem?_copyInto (text : Bytes) {buffer : Bytes} {i : Nat} (inside : i < buffer.length) :
    (copyInto text buffer)[i]? =
      if i < min text.length (buffer.length - 1) then text[i]?
      else if i = min text.length (buffer.length - 1) then some 0
      else buffer[i]? := by
  have nonempty : ¬ buffer.isEmpty = true := by
    rw [List.isEmpty_iff]
    rintro rfl
    exact absurd inside (Nat.not_lt_zero i)
  have copied : (text.take (buffer.length - 1)).length = min text.length (buffer.length - 1) := by
    rw [List.length_take, Nat.min_comm]
  simp only [copyInto, if_neg nonempty, List.getElem?_append, copied]
  split
  case isTrue front =>
    rw [List.getElem?_take_of_lt]
    omega
  case isFalse behind =>
    split
    case isTrue last => rw [last, Nat.sub_self, List.getElem?_cons_zero]
    case isFalse =>
      have outside : min text.length (buffer.length - 1) < i := by omega
      obtain ⟨k, rfl⟩ := Nat.exists_eq_add_of_lt outside
      rw [Nat.add_assoc, Nat.add_sub_cancel_left, List.getElem?_cons_succ, List.getElem?_drop]
      congr 1
      omega

/-- A buffer before and behind a text is copied into it.  Of the text that counts what leaves room
for the zero byte, and the bytes that stand behind it are those of before. -/
structure Filled (text buffer filled : Bytes) : Prop where
  length_eq : filled.length = buffer.length
  getElem?_eq : ∀ i < buffer.length, filled[i]? =
    if i < min text.length (buffer.length - 1) then text[i]?
    else if i = min text.length (buffer.length - 1) then some 0
    else buffer[i]?

theorem filled_copyInto (text buffer : Bytes) : Filled text buffer (copyInto text buffer) :=
  ⟨length_copyInto text buffer, fun _ inside => getElem?_copyInto text inside⟩

/-- With room for the whole text and the zero byte, that is all that the buffer holds. -/
theorem Filled.eq_append {text buffer filled : Bytes} (h : Filled text buffer filled)
    (room : buffer.length = text.length + 1) : filled = text ++ [0] := by
  have count : min text.length (buffer.length - 1) = text.length := by omega
  apply List.ext_getElem?
  intro i
  rcases Nat.lt_trichotomy i text.length with inside | rfl | outside
  · rw [h.getElem?_eq i (by omega), count, if_pos inside, List.getElem?_append_left inside]
  · rw [h.getElem?_eq _ (by omega), count, if_neg (Nat.lt_irrefl _), if_pos rfl]
    simp
  · rw [List.getElem?_eq_none (by rw [h.length_eq]; omega), List.getElem?_eq_none]
    rw [List.length_append, List.length_singleton]
    omega

/-- Nothing is written where there is no buffer. -/
inductive Written (text : Bytes) : Option Bytes → Option Bytes → Prop
  | nowhere : Written text none none
  | buffer {buffer filled : Bytes} (h : Filled text buffer filled) :
      Written text (some buffer) (some filled)

theorem written_copyInto (text : Bytes) (buffer : Option Bytes) :
    Written text buffer (buffer.map (copyInto text)) := by
  cases buffer with
  | none => exact .nowhere
  | some buffer => exact .buffer (filled_copyInto text buffer)

namespace Session

/-- What the calls `ask` tell of a text, one for each buffer that they may be given. -/
structure Delivers (session : Session) (ask : Option Bytes → Call) (text : String) : Prop where
  nonzero : 0 ∉ textBytes text
  /-- The length does not depend on the buffer. -/
  reply : ∃ length : Int, ((textBytes text).length < 2 ^ 31 → length = (textBytes text).length) ∧
    ∀ buffer, ∃ filled, (session.run (ask buffer)).1 = .length length filled ∧
      Written (textBytes text) buffer filled
  /-- With a buffer of the length that was asked for and a byte more, the next call gives the
  whole text. -/
  recovers : (textBytes text).length < 2 ^ 31 → ∀ (length : Int) (buffer : Bytes),
    (session.run (ask none)).1 = .length length none → (buffer.length : Int) = length + 1 →
      ∃ filled,
        ((session.run (ask none)).2.run (ask (some buffer))).1 = .length length (some filled) ∧
          filled = textBytes text ++ [0] ∧ decodeText? filled = some text

theorem delivers_of_lengthReply {session : Session} {ask : Option Bytes → Call} {text : String}
    (nonzero : ∀ byte ∈ textBytes text, byte ≠ 0)
    (first : ∀ buffer, (session.run (ask buffer)).1 = lengthReply text buffer)
    (second : ∀ buffer, ((session.run (ask none)).2.run (ask buffer)).1 = lengthReply text buffer) :
    session.Delivers ask text where
  nonzero mem := nonzero 0 mem rfl
  reply := by
    refine ⟨reportedLength (textBytes text), fun short => ?_, fun buffer => ?_⟩
    · rw [reportedLength]
      omega
    · exact ⟨_, first buffer, written_copyInto _ buffer⟩
  recovers short length buffer asked room := by
    have reported : reportedLength (textBytes text) = (textBytes text).length := by
      rw [reportedLength]
      omega
    rw [first none, lengthReply, reported] at asked
    cases asked
    have count : buffer.length = (textBytes text).length + 1 := by omega
    refine ⟨copyInto (textBytes text) buffer, (second (some buffer)).trans ?_,
      (filled_copyInto _ buffer).eq_append count, ?_⟩
    · rw [lengthReply, reported]
      rfl
    · exact decodeText?_of_untilZero (untilZero_copyInto nonzero (by omega))

/-- The text of the last failure and the text of a live handle can be asked for in two calls, in any
session whatever. -/
theorem run_delivers (session : Session) :
    session.Delivers .errorMessage session.errorMessage ∧
      ∀ i q, session.store.Denotes i q → session.Delivers (.text (some i)) q.text := by
  constructor
  · exact delivers_of_lengthReply (fun _ => nonzero_of_unbroken session.unbroken_errorMessage)
      (fun _ => rfl) (fun _ => rfl)
  · intro i q live
    refine delivers_of_lengthReply (fun _ => nonzero_text)
      (fun buffer => congrArg Prod.fst (run_text live buffer)) (fun buffer => ?_)
    have kept : (session.run (.text (some i) none)).2.store.Denotes i q :=
      denotes_run_iff.mpr (.inr ⟨live, nofun⟩)
    exact congrArg Prod.fst (run_text kept buffer)

theorem run_delivers_missingUnit :
    let session := after [.unitless 5, .valueIn (some 0) none true]
    session.store.Denotes 0 (.unitless 5) ∧
      session.errorMessage = "argument `unit` is null" ∧
        session.Delivers .errorMessage session.errorMessage ∧
          session.Delivers (.text (some 0)) (Quantity.unitless 5).text := by
  intro session
  have live : session.store.Denotes 0 (.unitless 5) := rfl
  have delivers := run_delivers session
  exact ⟨live, by decide +kernel, delivers.1, delivers.2 0 _ live⟩

end Session

end Handles

end Dimensional
