import ProviderRouting.Number.Binary64

/-!
# Unsigned doubles

Doubles that come from whole numbers, by adding them, and by multiplying or dividing them by finite
positive ones, have no minus sign and are numbers, though they may be infinite.  In particular
neither a difference of infinities nor a quotient of zeros comes up among them.
-/

namespace ProviderRouting.Binary64

open Float.Model
open Float.Model.UnpackedFloat

/-- An unpacked double is a number and has no minus sign. -/
inductive UnsignedReading : UnpackedFloat → Prop
  | infinity : UnsignedReading (.infinity .positive)
  | zero : UnsignedReading (.zero .positive)
  | finite (mantissa : Nat) (exponent : Int) (positive : 0 < mantissa) :
    UnsignedReading (.finite .positive mantissa exponent positive)

/-- A double is a number and has no minus sign. -/
def Unsigned (value : Float) : Prop := UnsignedReading value.toModel.unpack

/-- A double is a finite number above zero. -/
def Positive (value : Float) : Prop :=
  ∃ mantissa exponent positive,
    value.toModel.unpack = .finite .positive mantissa exponent positive

/-! ## Rounding -/

variable {spec : Format} {left right : UnpackedFloat}

theorem unsignedReading_of_mantissa (mantissa : Nat) (exponent : Int) :
    UnsignedReading (if none : mantissa = 0 then .zero .positive
      else .finite .positive mantissa exponent (Nat.pos_of_ne_zero none)) := by
  by_cases none : mantissa = 0
  · rw [dif_pos none]
    exact .zero
  · rw [dif_neg none]
    exact .finite _ _ _

theorem unsignedReading_roundWithAccuracy (mantissa : Nat) (exponent : Int) (accuracy : Accuracy) :
    UnsignedReading (roundWithAccuracy spec .positive mantissa exponent accuracy) := by
  unfold roundWithAccuracy
  exact unsignedReading_of_mantissa _ _

theorem unsignedReading_normalize {mantissa : Int} (nonnegative : 0 ≤ mantissa) (exponent : Int) :
    UnsignedReading (UnpackedFloat.normalize spec mantissa exponent .positive) := by
  unfold UnpackedFloat.normalize
  cases sign : compare mantissa 0 with
  | lt => exact absurd (Int.compare_eq_lt.mp sign) (Int.not_lt.mpr nonnegative)
  | eq => exact .zero
  | gt => exact unsignedReading_roundWithAccuracy _ _ _

namespace UnsignedReading

theorem add (unsigned : UnsignedReading left) (other : UnsignedReading right) :
    UnsignedReading (left.add spec right) := by
  cases unsigned with
  | infinity => cases other <;> exact .infinity
  | zero =>
      cases other with
      | infinity => exact .infinity
      | zero => exact .zero
      | finite mantissa exponent positive => exact .finite mantissa exponent positive
  | finite mantissa exponent positive =>
      cases other with
      | infinity => exact .infinity
      | zero => exact .finite mantissa exponent positive
      | finite _ _ _ =>
          exact unsignedReading_normalize (Int.add_nonneg (Int.natCast_nonneg _)
            (Int.natCast_nonneg _)) _

theorem mul (unsigned : UnsignedReading left) {mantissa : Nat} {exponent : Int}
    (positive : 0 < mantissa) :
    UnsignedReading (left.mul spec (.finite .positive mantissa exponent positive)) := by
  cases unsigned with
  | infinity => exact .infinity
  | zero => exact .zero
  | finite _ _ _ => exact unsignedReading_roundWithAccuracy _ _ _

theorem div (unsigned : UnsignedReading left) {mantissa : Nat} {exponent : Int}
    (positive : 0 < mantissa) :
    UnsignedReading (left.div spec (.finite .positive mantissa exponent positive)) := by
  cases unsigned with
  | infinity => exact .infinity
  | zero => exact .zero
  | finite _ _ _ => exact unsignedReading_roundWithAccuracy _ _ _

theorem isNaN (unsigned : UnsignedReading left) : left.isNaN = false := by
  cases unsigned <;> rfl

end UnsignedReading

/-! ## Packing -/

theorem unpackSign_packComponents (sign : Sign) (exponent : BitVec spec.exponentBits)
    (mantissa : BitVec spec.mantissaBitsWithoutImplicit) :
    unpackSign (packComponents spec sign exponent mantissa) = sign.toBitVec := by
  let place := spec.mantissaBitsWithoutImplicit + spec.exponentBits
  have field : unpackSign (packComponents spec sign exponent mantissa) =
      ((packComponents spec sign exponent mantissa).extractLsb place place).cast (by omega) := rfl
  rw [field]
  ext bit inside
  obtain rfl : bit = 0 := by omega
  simp [place, packComponents, BitVec.getLsbD_append, BitVec.getElem_append]

/-- Without a minus sign, all is a number whose exponent is not the last one, or whose mantissa is
zero. -/
theorem unsignedReading_unpack {bits : BitVec spec.numBits}
    (sign : Sign.ofBitVec (unpackSign bits) = .positive)
    (number : unpackExponent bits = -1#_ → unpackMantissa bits = 0#_) :
    UnsignedReading (UnpackedFloat.unpack spec bits) := by
  unfold UnpackedFloat.unpack
  dsimp only
  rw [sign]
  by_cases last : unpackExponent bits = -1#_
  · rw [if_pos last, if_pos (number last)]
    exact .infinity
  · rw [if_neg last]
    by_cases first : unpackExponent bits = 0#_
    · rw [if_pos first]
      by_cases none : unpackMantissa bits = 0#_
      · rw [dif_pos none]
        exact .zero
      · rw [dif_neg none]
        exact .finite _ _ _
    · rw [if_neg first]
      exact .finite _ _ _

theorem unsignedReading_packComponents {exponent : BitVec spec.exponentBits}
    {mantissa : BitVec spec.mantissaBitsWithoutImplicit}
    (number : exponent = -1#_ → mantissa = 0#_) :
    UnsignedReading
      (UnpackedFloat.unpack spec (packComponents spec .positive exponent mantissa)) := by
  refine unsignedReading_unpack ?_ ?_
  · rw [unpackSign_packComponents]
    rfl
  · rw [unpackExponent_packComponents, unpackMantissa_packComponents]
    exact number

theorem UnsignedReading.pack (unsigned : UnsignedReading left) :
    UnsignedReading (UnpackedFloat.unpack spec (left.pack spec)) := by
  cases unsigned with
  | infinity => exact unsignedReading_packComponents fun _ => rfl
  | zero => exact unsignedReading_packComponents fun _ => rfl
  | finite mantissa exponent positive =>
      unfold UnpackedFloat.pack
      dsimp only
      split
      · exact unsignedReading_packComponents fun _ => rfl
      · rename_i fits
        split
        · refine unsignedReading_packComponents fun last => absurd (congrArg BitVec.toNat last) ?_
          rw [BitVec.neg_one_eq_allOnes, BitVec.toNat_allOnes, BitVec.toNat_ofNat,
            Nat.mod_eq_of_lt (by omega)]
          omega
        · refine unsignedReading_packComponents fun last => absurd (congrArg BitVec.toNat last) ?_
          have wide : 1 < 2 ^ spec.exponentBits := Nat.one_lt_two_pow (Nat.ne_of_gt spec.he)
          rw [BitVec.neg_one_eq_allOnes, BitVec.toNat_allOnes, BitVec.toNat_zero]
          omega

/-! ## Doubles -/

theorem Unsigned.add {left right : Float} (unsigned : Unsigned left) (other : Unsigned right) :
    Unsigned (left + right) :=
  (UnsignedReading.add unsigned other).pack

theorem Unsigned.mul {left right : Float} (unsigned : Unsigned left) (positive : Positive right) :
    Unsigned (left * right) := by
  obtain ⟨mantissa, exponent, above, reading⟩ := positive
  change UnsignedReading (UnpackedFloat.unpack _ (UnpackedFloat.pack _ (left.toModel.unpack.mul _
    right.toModel.unpack)))
  rw [reading]
  exact (UnsignedReading.mul unsigned above).pack

theorem Unsigned.div {left right : Float} (unsigned : Unsigned left) (positive : Positive right) :
    Unsigned (left / right) := by
  obtain ⟨mantissa, exponent, above, reading⟩ := positive
  change UnsignedReading (UnpackedFloat.unpack _ (UnpackedFloat.pack _ (left.toModel.unpack.div _
    right.toModel.unpack)))
  rw [reading]
  exact (UnsignedReading.div unsigned above).pack

theorem unsigned_toFloat (word : UInt64) : Unsigned word.toFloat :=
  (unsignedReading_normalize (Int.natCast_nonneg _) _).pack

theorem Unsigned.isNaN {value : Float} (unsigned : Unsigned value) : value.isNaN = false :=
  UnsignedReading.isNaN unsigned

end ProviderRouting.Binary64
