import Mathlib.Data.Nat.Log
import Dimensional.Number.Reading
import Dimensional.Proofs.Number.ExponentField
import Dimensional.Proofs.Number.SmallFraction

/-!
Integers beyond the mantissa as floats.  What such an integer is rounded to has a full mantissa and
a positive exponent, or is infinite; so it lies beyond the range of exponents, and stands for no
fraction.
-/

namespace Dimensional.Number

open Float.Model Float.Model.UnpackedFloat

/-! Rounding keeps the leading digit where it is. -/

section Rounding

theorem mantissa_shiftRight (em : ExtendedMantissa) (count : Nat) :
    (em >>> count).mantissa = em.mantissa / 2 ^ count := by
  change (count.repeat ExtendedMantissa.shiftRightOne em).mantissa = _
  induction count with
  | zero => rw [Nat.repeat, pow_zero, Nat.div_one]
  | succ count ih =>
      rw [Nat.repeat, ExtendedMantissa.shiftRightOne, ih, Nat.div_div_eq_div_mul, ← pow_succ]

theorem mantissa_ofMantissaAndAccuracy (m : Nat) (accuracy : Accuracy) :
    (ExtendedMantissa.ofMantissaAndAccuracy m accuracy).mantissa = m := by
  match accuracy with
  | .exact | .inexact .lt | .inexact .eq | .inexact .gt => rfl

theorem le_roundToNearestEven (accuracy : Accuracy) (m : Nat) :
    m ≤ accuracy.roundToNearestEven m := by
  match accuracy with
  | .exact | .inexact .lt => exact Nat.le_refl m
  | .inexact .eq | .inexact .gt => exact Nat.le_add_right m _

theorem log2_le_log2 {m n : Nat} (h : m ≤ n) : m.log2 ≤ n.log2 := by
  rw [Nat.log2_eq_log_two, Nat.log2_eq_log_two]
  exact Nat.log_mono_right h

theorem log2_div_two_pow (m count : Nat) : (m / 2 ^ count).log2 = m.log2 - count := by
  rw [Nat.log2_eq_log_two, Nat.log2_eq_log_two, Nat.log_div_base_pow]

theorem log2_mul_two_pow {m : Nat} (nonzero : m ≠ 0) (count : Nat) :
    (m * 2 ^ count).log2 = m.log2 + count := by
  induction count with
  | zero => rw [pow_zero, Nat.mul_one, Nat.add_zero]
  | succ count ih =>
      have some : m * 2 ^ count ≠ 0 := Nat.mul_ne_zero nonzero (Nat.two_pow_pos count).ne'
      rw [pow_succ', Nat.mul_left_comm, Nat.log2_two_mul some, ih, Nat.add_assoc]

variable {m : Nat} {e : Int}

/-- A mantissa of more digits than fit is cut to those that do. -/
theorem shiftToTargetExponent_of_wide (wide : 52 ≤ m.log2) (deep : -1074 ≤ e)
    (accuracy : Accuracy) :
    (shiftToTargetExponent Format.binary64 m e accuracy).1.mantissa.log2 = 52 ∧
      (shiftToTargetExponent Format.binary64 m e accuracy).2 = e + (m.log2 - 52) := by
  have target : Format.binary64.targetExponent (totalExponent m e) - e = m.log2 - 52 := by
    change max ((m.log2 + 1 + e) - 53) (-1074) - e = m.log2 - 52
    omega
  have count : (Format.binary64.targetExponent (totalExponent m e) - e).toNat = m.log2 - 52 := by
    omega
  rw [shiftToTargetExponent, shiftToExponent, count]
  constructor
  · rw [mantissa_shiftRight, mantissa_ofMantissaAndAccuracy, log2_div_two_pow]
    omega
  · change e + ((m.log2 - 52 : Nat) : Int) = _
    omega

/-- No number at all, infinite, or with a full mantissa in units of at least two. -/
inductive Wide : UnpackedFloat → Prop
  | notANumber : Wide .notANumber
  | infinity (s : Sign) : Wide (.infinity s)
  | finite (s : Sign) {m : Nat} {e : Int} (positive : 0 < m) (full : m.log2 = 52) (high : 1 ≤ e) :
      Wide (.finite s m e positive)

theorem wide_roundWithAccuracy (s : Sign) (wide : 52 ≤ m.log2) (deep : -1074 ≤ e)
    (high : 53 ≤ m.log2 + e) (accuracy : Accuracy) :
    Wide (roundWithAccuracy Format.binary64 s m e accuracy) := by
  obtain ⟨full, moved⟩ := shiftToTargetExponent_of_wide wide deep accuracy
  rw [roundWithAccuracy]
  generalize shiftToTargetExponent Format.binary64 m e accuracy = first at full moved
  have rounded : 52 ≤ first.1.roundedMantissa.log2 :=
    full ▸ log2_le_log2 (le_roundToNearestEven first.1.accuracy first.1.mantissa)
  -- Rounding up may have added a digit, which a second shift takes away again.
  have again := shiftToTargetExponent_of_wide rounded (e := first.2) (by omega) .exact
  dsimp only
  generalize shiftToTargetExponent Format.binary64 first.1.roundedMantissa first.2 .exact = second
    at again
  have nonzero : second.1.mantissa ≠ 0 := by
    intro zero
    rw [zero] at again
    exact absurd again.1 (by decide)
  rw [dif_neg nonzero]
  exact .finite s _ again.1 (by omega)

theorem wide_mul {n : Nat} {f : Int} (s t : Sign) (hm : 0 < m) (hn : 0 < n)
    (wide : 52 ≤ (m * n).log2) (deep : -1074 ≤ e + f) (high : 53 ≤ (m * n).log2 + (e + f)) :
    Wide (UnpackedFloat.mul Format.binary64 (.finite s m e hm) (.finite t n f hn)) :=
  wide_roundWithAccuracy (s * t) wide deep high .exact

theorem wide_ofScientific (large : 2 ^ 53 ≤ m) :
    Wide (UnpackedFloat.ofScientific Format.binary64 m 0) := by
  have nonzero : m ≠ 0 := by omega
  have digits : 53 ≤ m.log2 := (Nat.le_log2 nonzero).mpr large
  have low : ¬(0 : Int) > 2 ^ 11 := by omega
  have high : ¬(0 : Int) < -((2 ^ 11 : Int) + m.log2) := by omega
  rw [UnpackedFloat.ofScientific, dif_neg nonzero, if_neg low, if_neg high,
    if_pos (Int.le_refl 0)]
  -- The integer is taken as a product by a power of ten, which is one here.
  have product : (m <<< 53 * 10 ^ 0).log2 = m.log2 + 53 := by
    rw [Nat.shiftLeft_eq, pow_zero, Nat.mul_one, log2_mul_two_pow nonzero]
  have shifted : 0 < m <<< 53 := by
    rw [Nat.shiftLeft_eq]
    omega
  exact wide_mul .positive .positive (n := 10 ^ 0) (e := -53) (f := 0) shifted (by decide)
    (by omega) (by decide) (by omega)

end Rounding

/-! The exponent field tells which floats these are. -/

section Field

variable {u : UnpackedFloat} {x : Float}

theorem le_field_pack (h : Wide u) :
    1076 ≤ (@unpackExponent Format.binary64 (UnpackedFloat.pack Format.binary64 u)).toNat := by
  cases h with
  | notANumber =>
      change 1076 ≤ (unpackExponent (packComponents Format.binary64 .positive (-1#_) _)).toNat
      rw [unpackExponent_packComponents]
      decide
  | infinity s =>
      change 1076 ≤ (unpackExponent (packedInfinity Format.binary64 s)).toNat
      rw [packedInfinity, unpackExponent_packComponents]
      decide
  | @finite s m e positive full high =>
      have biased : (e + Format.binary64.exponentBias + 52).toNat = e.toNat + 1075 := by
        change (e + 1023 + 52).toNat = e.toNat + 1075
        omega
      change 1076 ≤ (unpackExponent
        (if 2 ^ 11 ≤ (e + Format.binary64.exponentBias + 52).toNat + 1 then
          packedInfinity Format.binary64 s
        else if m.log2 + 1 = Format.binary64.mantissaBits then
          packComponents Format.binary64 s
            (BitVec.ofNat _ (e + Format.binary64.exponentBias + 52).toNat) (BitVec.ofNat _ m)
        else packComponents Format.binary64 s 0 (BitVec.ofNat _ m))).toNat
      rw [biased]
      split
      case isTrue =>
        rw [packedInfinity, unpackExponent_packComponents]
        decide
      case isFalse inside =>
        have fits : e.toNat + 1075 < 2 ^ 11 := Nat.lt_of_succ_lt (Nat.not_le.mp inside)
        rw [if_pos (by rw [full]; rfl), unpackExponent_packComponents, BitVec.toNat_ofNat,
          Nat.mod_eq_of_lt fits]
        omega

theorem le_exponentField_pack (h : Wide u) :
    1076 ≤ exponentField (.ofModel (.pack u)) := by
  rw [← toNat_unpackExponent]
  exact le_field_pack h

theorem log2_implicit (fraction : BitVec 52) : (1#1 ++ fraction).toNat.log2 = 52 := by
  have whole : (1#1 ++ fraction).toNat = 2 ^ 52 + fraction.toNat := by
    rw [BitVec.toNat_append, ← Nat.shiftLeft_add_eq_or_of_lt fraction.isLt]
    rfl
  rw [whole, Nat.log2_eq_iff (by omega)]
  omega

theorem wide_unpack (large : 1076 ≤ exponentField x) : Wide x.toModel.unpack := by
  rw [← toNat_unpackExponent] at large
  change Wide (UnpackedFloat.unpack Format.binary64 x.toBits.toBitVec)
  generalize x.toBits.toBitVec = bits at large
  unfold UnpackedFloat.unpack
  dsimp only
  by_cases full : @unpackExponent Format.binary64 bits = -1#_
  · rw [if_pos full]
    by_cases empty : @unpackMantissa Format.binary64 bits = 0#_
    · rw [if_pos empty]
      exact .infinity _
    · rw [if_neg empty]
      exact .notANumber
  · have normal : @unpackExponent Format.binary64 bits ≠ 0#_ := by
      intro zero
      rw [zero] at large
      exact absurd large (by decide)
    rw [if_neg full, if_neg normal]
    refine .finite _ _ (log2_implicit _) ?_
    change 1 ≤ ((@unpackExponent Format.binary64 bits).toNat : Int) - (1023 + 52)
    omega

theorem Wide.neg (h : Wide u) : Wide u.neg := by
  cases h with
  | notANumber => exact .notANumber
  | infinity s => exact .infinity (-s)
  | finite s positive full high => exact .finite (-s) positive full high

theorem le_exponentField_neg (large : 1076 ≤ exponentField x) : 1076 ≤ exponentField (-x) :=
  le_exponentField_pack (wide_unpack large).neg

end Field

/-! Read as a float, such an integer stands for no fraction. -/

section Reading

variable {x : Float} {m : Nat}

theorem parts_of_le_exponentField (large : 1076 ≤ exponentField x) {negative : Bool}
    {magnitude : Magnitude} (h : parts x = .finite negative magnitude) :
    2 ^ 52 ≤ magnitude.mantissa ∧ 1 ≤ magnitude.exponent := by
  have shape : parts x = if exponentField x = 0x7ff then
      (if (x.toBits &&& 0xfffffffffffff).toNat = 0 then .infinite (x.toBits >>> 63 == 1) else .nan)
    else if exponentField x = 0 then _
    else .finite (x.toBits >>> 63 == 1)
      ⟨0x10000000000000 + (x.toBits &&& 0xfffffffffffff).toNat, exponentField x - 1075, _⟩ := rfl
  rw [shape] at h
  split at h
  · split at h <;> contradiction
  · rw [if_neg (by omega)] at h
    obtain ⟨-, rfl⟩ := Parts.finite.inj h
    dsimp only
    omega

theorem maxFraction_lt_toRat {magnitude : Magnitude} (full : 2 ^ 52 ≤ magnitude.mantissa)
    (high : 1 ≤ magnitude.exponent) : maxFraction < magnitude.toRat := by
  rw [Magnitude.toRat, if_pos (by omega), maxFraction]
  have power : 1 ≤ Nat.pow 2 magnitude.exponent.toNat := Nat.one_le_two_pow
  have product : 2147483647 < magnitude.mantissa * Nat.pow 2 magnitude.exponent.toNat :=
    calc
      2147483647 < 2 ^ 52 * 1 := by decide
      _ ≤ _ := Nat.mul_le_mul full power
  exact_mod_cast product

theorem smallFraction?_of_le_exponentField (large : 1076 ≤ exponentField x) :
    smallFraction? x = none := by
  rw [smallFraction?, toRat?]
  cases shape : parts x with
  | nan | infinite => rfl
  | finite negative magnitude =>
      obtain ⟨full, high⟩ := parts_of_le_exponentField large shape
      have beyond := maxFraction_lt_toRat full high
      have natural : 0 ≤ magnitude.toRat := le_trans (by decide) beyond.le
      have size : (if negative then -magnitude.toRat else magnitude.toRat).abs =
          magnitude.toRat := by
        cases negative with
        | false => exact Rat.abs_of_nonneg natural
        | true => exact Rat.abs_neg.trans (Rat.abs_of_nonneg natural)
      exact if_pos (size.symm ▸ beyond)

theorem le_exponentField_ofDecimal (large : 2 ^ 53 ≤ m) :
    1076 ≤ exponentField (ofDecimal m 0) := by
  rw [ofDecimal, if_neg (by omega)]
  split
  · decide +kernel
  · rw [if_neg (by decide), Int.natAbs_zero]
    have wide : ¬(m < 2 ^ 53 ∧ 0 ≤ 22) := by omega
    change 1076 ≤ exponentField (Float.ofScientific m false 0)
    rw [Float.ofScientific, dif_neg wide]
    exact le_exponentField_pack (wide_ofScientific large)

theorem smallFraction?_ofParts (negative : Bool) (large : 2 ^ 53 ≤ m) :
    smallFraction? (ofParts negative m 0) = none := by
  apply smallFraction?_of_le_exponentField
  cases negative with
  | false => exact le_exponentField_ofDecimal large
  | true => exact le_exponentField_neg (le_exponentField_ofDecimal large)

end Reading

end Dimensional.Number
