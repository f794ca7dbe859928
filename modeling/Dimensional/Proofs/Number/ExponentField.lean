import Dimensional.Number.Magnitude

/-!
The exponent of a float as its bits hold it, and what it says about the number: which floats are
finite.
-/

namespace Dimensional

namespace Number

open Float.Model Float.Model.UnpackedFloat

def exponentField (x : Float) : Nat :=
  ((x.toBits >>> 52) &&& 0x7ff).toNat

theorem toNat_unpackExponent (x : Float) :
    (@unpackExponent Format.binary64 x.toBits.toBitVec).toNat = exponentField x := by
  have field (n : Nat) : n % 2048 = n &&& 2047 := (Nat.and_two_pow_sub_one_eq_mod n 11).symm
  simp [unpackExponent, exponentField, field]

theorem isFinite_eq_true_iff {x : Float} : x.isFinite = true ↔ exponentField x ≠ 0x7ff := by
  have special : @unpackExponent Format.binary64 x.toBits.toBitVec = -1#_ ↔
      exponentField x = 0x7ff := by
    rw [← toNat_unpackExponent, ← BitVec.toNat_inj]
    rfl
  rw [ne_eq, ← special]
  change (UnpackedFloat.unpack Format.binary64 x.toBits.toBitVec).isFinite = true ↔ _
  by_cases infinite : @unpackExponent Format.binary64 x.toBits.toBitVec = -1#_
  · refine iff_of_false ?_ (not_not_intro infinite)
    rw [show UnpackedFloat.unpack Format.binary64 x.toBits.toBitVec = _ from if_pos infinite]
    split <;> exact Bool.false_ne_true
  · refine iff_of_true ?_ infinite
    rw [show UnpackedFloat.unpack Format.binary64 x.toBits.toBitVec = _ from if_neg infinite]
    by_cases subnormal : @unpackExponent Format.binary64 x.toBits.toBitVec = 0#_
    · rw [if_pos subnormal]
      by_cases zero : @unpackMantissa Format.binary64 x.toBits.toBitVec = 0#_
      · rw [dif_pos zero]
        rfl
      · rw [dif_neg zero]
        rfl
    · rw [if_neg subnormal]
      rfl

theorem exists_finite_iff {x : Float} :
    (∃ negative magnitude, parts x = .finite negative magnitude) ↔ x.isFinite = true := by
  rw [isFinite_eq_true_iff]
  unfold parts Parts.ofBits
  change (∃ negative magnitude, (if exponentField x = 0x7ff then _ else _) = _) ↔ _
  by_cases special : exponentField x = 0x7ff
  · rw [if_pos special]
    split <;> simp [special]
  · rw [if_neg special]
    split <;> simp [special]

end Number

end Dimensional
