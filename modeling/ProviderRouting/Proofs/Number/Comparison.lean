import Mathlib.Algebra.Order.Group.Int
import Mathlib.Data.Prod.Lex
import Mathlib.Order.Compare
import ProviderRouting.Number.Binary64

/-!
# Comparing doubles

Doubles that are numbers are compared as their places on the line of numbers: first by the side of
zero, and there by the exponent before the mantissa.  What is not a number compares with nothing.
So comparing is an order on numbers, in which the two zeros have the same place.
-/

namespace ProviderRouting.Binary64

open Float.Model

/-- The place of an unpacked double on the line of numbers.  What is not a number has none, and is
put with zero. -/
def place : UnpackedFloat → Int ×ₗ Int ×ₗ Int
  | .infinity .negative => toLex (-2, toLex (0, 0))
  | .finite .negative mantissa exponent _ => toLex (-1, toLex (-exponent, -mantissa))
  | .zero _ | .notANumber => toLex (0, toLex (0, 0))
  | .finite .positive mantissa exponent _ => toLex (1, toLex (exponent, mantissa))
  | .infinity .positive => toLex (2, toLex (0, 0))

theorem compare_natCast (left right : Nat) : compare (left : Int) right = compare left right := by
  simp only [compare, compareOfLessAndEq, Int.ofNat_lt, Int.natCast_inj]

theorem compare_neg (left right : Int) : compare (-left) (-right) = (compare left right).swap := by
  rw [Std.OrientedOrd.eq_swap (a := left), Ordering.swap_swap]
  simp only [compare, compareOfLessAndEq, Int.neg_lt_neg_iff, Int.neg_inj, eq_comm]

/-- Numbers are compared as their places. -/
theorem compare_eq_place {left right : UnpackedFloat} (leftNumber : left.isNaN = false)
    (rightNumber : right.isNaN = false) :
    left.compare right = some (compare (place left) (place right)) := by
  have number {value : UnpackedFloat} (known : value.isNaN = false) : value ≠ .notANumber := by
    rintro rfl
    exact Bool.false_ne_true known.symm
  cases left with
  | notANumber => exact absurd rfl (number leftNumber)
  | infinity leftSign =>
      cases right with
      | notANumber => exact absurd rfl (number rightNumber)
      | infinity rightSign | finite rightSign _ _ _ => cases leftSign <;> cases rightSign <;> rfl
      | zero _ => cases leftSign <;> rfl
  | zero _ =>
      cases right with
      | notANumber => exact absurd rfl (number rightNumber)
      | infinity rightSign | finite rightSign _ _ _ => cases rightSign <;> rfl
      | zero _ => rfl
  | finite leftSign leftMantissa leftExponent _ =>
      cases right with
      | notANumber => exact absurd rfl (number rightNumber)
      | infinity rightSign => cases leftSign <;> cases rightSign <;> rfl
      | zero _ => cases leftSign <;> rfl
      | finite rightSign rightMantissa rightExponent _ =>
          cases leftSign <;> cases rightSign
          -- below zero the farther number is the smaller one
          · change _ = some ((compare (-leftExponent) (-rightExponent)).then
              (compare (-(leftMantissa : Int)) (-(rightMantissa : Int))))
            rw [compare_neg, compare_neg, compare_natCast, ← Ordering.swap_then]
            rfl
          · rfl
          · rfl
          · change _ = some ((compare leftExponent rightExponent).then
              (compare (leftMantissa : Int) (rightMantissa : Int)))
            rw [compare_natCast]
            rfl

theorem compare_eq_none {left right : UnpackedFloat}
    (outside : ¬(left.isNaN = false ∧ right.isNaN = false)) : left.compare right = none := by
  cases left with
  | notANumber => rfl
  | infinity sign | zero sign | finite sign _ _ _ =>
      cases right with
      | notANumber => cases sign <;> rfl
      | infinity _ | zero _ | finite _ _ _ _ => exact absurd ⟨rfl, rfl⟩ outside

/-! ## The order -/

/-- The place of a double. -/
def placeOf (value : Float) : Int ×ₗ Int ×ₗ Int := place value.toModel.unpack

variable {left middle right : Float}

theorem le_iff :
    left ≤ right ↔ left.isNaN = false ∧ right.isNaN = false ∧ placeOf left ≤ placeOf right := by
  have unpacked : left ≤ right ↔ left.toModel.unpack.le right.toModel.unpack = true := by
    change decide (left.toModel ≤ right.toModel) = true ↔ _
    exact decide_eq_true_iff
  rw [unpacked, UnpackedFloat.le, ← and_assoc]
  by_cases numbers : left.isNaN = false ∧ right.isNaN = false
  · rw [compare_eq_place numbers.1 numbers.2, Option.any_some, and_iff_right numbers]
    exact Ordering.isLE_iff_ne_gt.trans compare_le_iff_le
  · rw [compare_eq_none numbers, Option.any_none]
    exact iff_of_false Bool.false_ne_true fun both => numbers both.1

theorem lt_iff :
    left < right ↔ left.isNaN = false ∧ right.isNaN = false ∧ placeOf left < placeOf right := by
  have unpacked : left < right ↔ left.toModel.unpack.lt right.toModel.unpack = true := by
    change decide (left.toModel < right.toModel) = true ↔ _
    exact decide_eq_true_iff
  rw [unpacked, UnpackedFloat.lt, ← and_assoc, beq_iff_eq]
  by_cases numbers : left.isNaN = false ∧ right.isNaN = false
  · rw [compare_eq_place numbers.1 numbers.2, Option.some_inj, and_iff_right numbers]
    exact compare_lt_iff_lt
  · rw [compare_eq_none numbers]
    exact iff_of_false (Option.some_ne_none _).symm fun both => numbers both.1

theorem le_refl_of_number (number : left.isNaN = false) : left ≤ left :=
  le_iff.mpr ⟨number, number, le_rfl⟩

theorem le_of_lt (less : left < right) : left ≤ right := by
  obtain ⟨leftNumber, rightNumber, places⟩ := lt_iff.mp less
  exact le_iff.mpr ⟨leftNumber, rightNumber, places.le⟩

theorem le_trans (first : left ≤ middle) (second : middle ≤ right) : left ≤ right := by
  obtain ⟨leftNumber, -, below⟩ := le_iff.mp first
  obtain ⟨-, rightNumber, above⟩ := le_iff.mp second
  exact le_iff.mpr ⟨leftNumber, rightNumber, below.trans above⟩

theorem not_lt_of_le (ordered : left ≤ right) : ¬right < left := fun less =>
  absurd (lt_iff.mp less).2.2 (le_iff.mp ordered).2.2.not_gt

/-- A number between two bounds is not changed by bringing it between them. -/
theorem clamp_of_between {value low high : Float} (above : low ≤ value) (below : value ≤ high) :
    clamp value low high = value := by
  rw [clamp, if_neg (not_lt_of_le above), if_neg (not_lt_of_le below)]

theorem le_of_not_lt (leftNumber : left.isNaN = false) (rightNumber : right.isNaN = false)
    (unordered : ¬right < left) : left ≤ right :=
  le_iff.mpr ⟨leftNumber, rightNumber,
    le_of_not_gt fun places => unordered (lt_iff.mpr ⟨rightNumber, leftNumber, places⟩)⟩

/-- What a double becomes that is brought between two bounds. -/
structure Clamped (value low high result : Float) : Prop where
  /-- A number below them becomes the lower one. -/
  below : value < low → result = low
  /-- A number above them becomes the upper one. -/
  above : high < value → result = high
  /-- A number between them stays as it is. -/
  between : low ≤ value → value ≤ high → result = value
  /-- What is not a number stays as it is. -/
  undefined : value.isNaN = true → result = value
  /-- Every number comes to be between them. -/
  bounded : value.isNaN = false → low ≤ result ∧ result ≤ high

theorem clamped_clamp {low high : Float} (ordered : low ≤ high) (value : Float) :
    Clamped value low high (clamp value low high) := by
  obtain ⟨lowNumber, highNumber, -⟩ := le_iff.mp ordered
  have below (less : value < low) : clamp value low high = low := if_pos less
  have above (greater : high < value) : clamp value low high = high := by
    rw [clamp, if_neg (not_lt_of_le (le_trans ordered (le_of_lt greater))), if_pos greater]
  refine ⟨below, above, clamp_of_between, fun undefined => ?_, fun number => ?_⟩
  · have noNumber : ¬value.isNaN = false := fun number =>
      Bool.false_ne_true (number.symm.trans undefined)
    rw [clamp, if_neg fun less => noNumber (lt_iff.mp less).1,
      if_neg fun greater => noNumber (lt_iff.mp greater).2.1]
  · by_cases less : value < low
    · rw [below less]
      exact ⟨le_refl_of_number lowNumber, ordered⟩
    · by_cases greater : high < value
      · rw [above greater]
        exact ⟨ordered, le_refl_of_number highNumber⟩
      · have inside := And.intro (le_of_not_lt lowNumber number less)
          (le_of_not_lt number highNumber greater)
        rwa [clamp_of_between inside.1 inside.2]

/-- What was brought between two bounds is not changed by doing so again. -/
theorem clamp_clamp {low high : Float} (ordered : low ≤ high) (value : Float) :
    clamp (clamp value low high) low high = clamp value low high := by
  have clamped := clamped_clamp ordered value
  cases number : value.isNaN with
  | false => exact clamp_of_between (clamped.bounded number).1 (clamped.bounded number).2
  | true => rw [clamped.undefined number, clamped.undefined number]

end ProviderRouting.Binary64
