import Dimensional.Number.Power

/-!
Products of floats.  The order of the factors does not matter, and an even power has no minus sign,
so it is never below zero.
-/

namespace Dimensional.Number

open Float.Model Float.Model.UnpackedFloat

/-! A product is computed on the unpacked factors, whose parts all commute. -/

theorem Sign.mul_comm (s t : Sign) : s * t = t * s := by
  cases s <;> cases t <;> rfl

theorem unpacked_mul_comm (spec : Format) (u v : UnpackedFloat) :
    UnpackedFloat.mul spec u v = UnpackedFloat.mul spec v u := by
  cases u with
  | notANumber => cases v <;> rfl
  | infinity s =>
      cases v with
      | notANumber | zero => rfl
      | infinity t | finite t => exact congrArg UnpackedFloat.infinity (Sign.mul_comm s t)
  | zero s =>
      cases v with
      | notANumber | infinity => rfl
      | zero t | finite t => exact congrArg UnpackedFloat.zero (Sign.mul_comm s t)
  | finite s m e =>
      cases v with
      | notANumber => rfl
      | infinity t => exact congrArg UnpackedFloat.infinity (Sign.mul_comm s t)
      | zero t => exact congrArg UnpackedFloat.zero (Sign.mul_comm s t)
      | finite t n f =>
          change roundWithAccuracy spec (s * t) (m * n) (e + f) .exact =
            roundWithAccuracy spec (t * s) (n * m) (f + e) .exact
          rw [Sign.mul_comm, Nat.mul_comm, Int.add_comm]

theorem float_mul_comm (x y : Float) : x * y = y * x :=
  congrArg (fun u => Float.ofModel (Float.Model.pack u)) (unpacked_mul_comm Format.binary64 _ _)

/-- The sign of a float; what is no number has any. -/
inductive HasSign (s : Sign) : UnpackedFloat → Prop
  | notANumber : HasSign s .notANumber
  | infinity : HasSign s (.infinity s)
  | zero : HasSign s (.zero s)
  | finite {m : Nat} {e : Int} (positive : 0 < m) : HasSign s (.finite s m e positive)

theorem exists_hasSign (u : UnpackedFloat) : ∃ s, HasSign s u := by
  cases u with
  | notANumber => exact ⟨.positive, .notANumber⟩
  | infinity s => exact ⟨s, .infinity⟩
  | zero s => exact ⟨s, .zero⟩
  | finite s m e positive => exact ⟨s, .finite positive⟩

theorem HasSign.dite {s : Sign} {c : Prop} [Decidable c] {u : c → UnpackedFloat}
    {v : ¬c → UnpackedFloat} (hu : ∀ h, HasSign s (u h)) (hv : ∀ h, HasSign s (v h)) :
    HasSign s (if h : c then u h else v h) := by
  by_cases h : c
  · rw [dif_pos h]
    exact hu h
  · rw [dif_neg h]
    exact hv h

theorem HasSign.round (spec : Format) (s : Sign) (m : Nat) (e : Int) (accuracy : Accuracy) :
    HasSign s (roundWithAccuracy spec s m e accuracy) :=
  .dite (fun _ => .zero) fun _ => .finite _

theorem HasSign.mul {s t : Sign} {u v : UnpackedFloat} (spec : Format) (hu : HasSign s u)
    (hv : HasSign t v) : HasSign (s * t) (UnpackedFloat.mul spec u v) := by
  cases hu with
  | notANumber => cases hv <;> exact .notANumber
  | infinity =>
      cases hv with
      | notANumber | zero => exact .notANumber
      | infinity | finite => exact .infinity
  | zero =>
      cases hv with
      | notANumber | infinity => exact .notANumber
      | zero | finite => exact .zero
  | finite =>
      cases hv with
      | notANumber => exact .notANumber
      | infinity => exact .infinity
      | zero => exact .zero
      | finite => exact .round spec _ _ _ .exact

theorem unpackSign_packComponents (spec : Format) (s : Sign) (e : BitVec spec.exponentBits)
    (m : BitVec spec.mantissaBitsWithoutImplicit) :
    unpackSign (packComponents spec s e m) = s.toBitVec := by
  ext i first
  obtain rfl : i = 0 := by omega
  change (BitVec.cast _ (BitVec.extractLsb (spec.mantissaBitsWithoutImplicit + spec.exponentBits)
    (spec.mantissaBitsWithoutImplicit + spec.exponentBits) (s.toBitVec ++ e ++ m)))[0] = _
  simp [BitVec.getLsbD_append, BitVec.getElem_append]

/-- Packed as infinity, as a normal or as a subnormal number, a float keeps its sign. -/
theorem unpackSign_pack_finite (s : Sign) {m : Nat} {e : Int} (positive : 0 < m) :
    unpackSign (UnpackedFloat.pack Format.binary64 (.finite s m e positive)) = s.toBitVec := by
  change unpackSign
    (if 2 ^ 11 ≤ (e + Format.binary64.exponentBias + 52).toNat + 1 then packedInfinity _ s
    else if m.log2 + 1 = Format.binary64.mantissaBits then
      packComponents Format.binary64 s
        (BitVec.ofNat _ (e + Format.binary64.exponentBias + 52).toNat)
        (BitVec.ofNat _ m)
    else packComponents Format.binary64 s 0 (BitVec.ofNat _ m)) = _
  split
  · exact unpackSign_packComponents _ _ _ _
  · split <;> exact unpackSign_packComponents _ _ _ _

theorem unpackSign_pack {u : UnpackedFloat} (h : HasSign .positive u) :
    unpackSign (UnpackedFloat.pack Format.binary64 u) = Sign.toBitVec .positive := by
  cases h with
  | notANumber | infinity | zero => exact unpackSign_packComponents _ _ _ _
  | finite positive => exact unpackSign_pack_finite .positive positive

theorem HasSign.unpack (b : BitVec Format.binary64.numBits) :
    HasSign (Sign.ofBitVec (unpackSign b)) (UnpackedFloat.unpack Format.binary64 b) :=
  .dite (fun _ => .dite (fun _ => .infinity) fun _ => .notANumber)
    fun _ => .dite (fun _ => .dite (fun _ => .zero) fun _ => .finite _) fun _ => .finite _

def Unsigned (x : Float) : Prop :=
  HasSign .positive x.toModel.unpack

theorem unsigned_of_pack {u : UnpackedFloat} (h : HasSign .positive u) :
    Unsigned (.ofModel (.pack u)) := by
  have unpacked := HasSign.unpack (UnpackedFloat.pack Format.binary64 u)
  rw [unpackSign_pack h] at unpacked
  exact unpacked

theorem Unsigned.mul {x y : Float} (hx : Unsigned x) (hy : Unsigned y) : Unsigned (x * y) :=
  unsigned_of_pack (HasSign.mul Format.binary64 hx hy)

theorem unsigned_mul_self (x : Float) : Unsigned (x * x) := by
  obtain ⟨s, sign⟩ := exists_hasSign x.toModel.unpack
  have square : s * s = .positive := by cases s <;> rfl
  exact unsigned_of_pack (square ▸ sign.mul Format.binary64 sign)

theorem unsigned_one : Unsigned 1.0 := by
  have one : (1.0 : Float) = .ofBits 0x3ff0000000000000 := by decide +kernel
  rw [one]
  exact .finite _

theorem Unsigned.not_lt_zero {x : Float} (h : Unsigned x) : ¬ x < 0.0 := by
  have zero : (0.0 : Float) = .ofBits 0 := by decide +kernel
  rw [zero]
  change decide ((x.toModel.unpack.compare (.zero .positive) == some .lt) = true) ≠ true
  rw [Unsigned] at h
  generalize x.toModel.unpack = u at h
  cases h <;> exact Bool.false_ne_true

theorem unsigned_repeatedSquare {product base : Float} (count : Nat) (hp : Unsigned product)
    (hb : Unsigned base) : Unsigned (repeatedSquare product base count) := by
  induction count using Nat.strongRecOn generalizing product base with
  | ind count ih =>
      have next : Unsigned (if count % 2 = 1 then product * base else product) := by
        split
        · exact hp.mul hb
        · exact hp
      rw [repeatedSquare]
      split
      · exact next
      · exact ih (count / 2) (by omega) next (hb.mul hb)

theorem unsigned_repeatedSquare_of_even (base : Float) {count : Nat} (even : count % 2 = 0) :
    Unsigned (repeatedSquare 1.0 base count) := by
  rw [repeatedSquare, if_neg (by omega)]
  split
  · exact unsigned_one
  -- The first step leaves the product alone and squares the base.
  · exact unsigned_repeatedSquare _ unsigned_one (unsigned_mul_self base)

end Dimensional.Number
