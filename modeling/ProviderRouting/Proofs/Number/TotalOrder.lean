import Mathlib.Algebra.Order.Ring.Nat
import ProviderRouting.Number.Binary64

/-!
# The total order of doubles

Without their signs, the bits of doubles grow with what they stand for.  The place of a double in
the total order therefore tells finite doubles apart by their values, and by their signs where the
values are both zero; infinities stand at the ends of them, and what is not a number beyond.

Every finite double is a whole multiple of the least positive one, and values are counted in such
units.
-/

namespace ProviderRouting.Binary64

/-- The value of a finite double, in units of the least positive double. -/
def Reading.units? : Reading → Option Int
  | .finite negative mantissa exponent =>
    let size : Nat := mantissa * 2 ^ (exponent + 1074).toNat
    some (if negative then -size else size)
  | _ => none

/-- Whether a double has a minus sign. -/
def negative (value : Float) : Bool := signBit ≤ value.toBits.toNat

/-- The bits of a double without its sign. -/
def magnitude (value : Float) : Nat := value.toBits.toNat % signBit

/-- What the bits of a finite double without its sign stand for, in units of the least positive
double. -/
def sizeOf (bits : Nat) : Nat :=
  if bits / hiddenBit = 0 then bits % hiddenBit
  else (hiddenBit + bits % hiddenBit) * 2 ^ (bits / hiddenBit - 1)

/-! ## Bits -/

/-- The next bits stand for more: for one unit of their exponent more, also where that grows. -/
theorem sizeOf_lt_succ (bits : Nat) : sizeOf bits < sizeOf (bits + 1) := by
  by_cases last : bits % hiddenBit + 1 = hiddenBit
  · have field : (bits + 1) / hiddenBit = bits / hiddenBit + 1 := by
      unfold hiddenBit at *
      omega
    have fraction : (bits + 1) % hiddenBit = 0 := by
      unfold hiddenBit at *
      omega
    have next : sizeOf (bits + 1) = hiddenBit * 2 ^ (bits / hiddenBit) := by
      unfold sizeOf
      rw [field, fraction, if_neg (Nat.succ_ne_zero _), Nat.add_zero, Nat.add_sub_cancel]
    rw [next]
    unfold sizeOf
    cases bits / hiddenBit with
    | zero =>
        rw [if_pos rfl, Nat.pow_zero, Nat.mul_one]
        exact Nat.mod_lt _ (by decide)
    | succ exponent =>
        have smaller : hiddenBit + bits % hiddenBit < hiddenBit * 2 := by omega
        rw [if_neg (Nat.succ_ne_zero _), Nat.add_sub_cancel, Nat.pow_succ',
          ← Nat.mul_assoc hiddenBit]
        exact Nat.mul_lt_mul_of_pos_right smaller (Nat.two_pow_pos exponent)
  · have field : (bits + 1) / hiddenBit = bits / hiddenBit := by
      unfold hiddenBit at *
      omega
    have fraction : (bits + 1) % hiddenBit = bits % hiddenBit + 1 := by
      unfold hiddenBit at *
      omega
    unfold sizeOf
    rw [field, fraction]
    split
    · exact Nat.lt_succ_self _
    · exact Nat.mul_lt_mul_of_pos_right (Nat.lt_succ_self _) (Nat.two_pow_pos _)

theorem sizeOf_strictMono : StrictMono sizeOf := strictMono_nat_of_lt_succ sizeOf_lt_succ

theorem toBits_lt (value : Float) : value.toBits.toNat < 2 * signBit := value.toBits.toNat_lt

theorem orderKey_eq (value : Float) :
    orderKey value =
      if negative value then -(magnitude value : Int) - 1 else (magnitude value : Int) := by
  have below := toBits_lt value
  unfold orderKey negative magnitude
  by_cases clear : value.toBits.toNat < signBit
  · have positive : ¬signBit ≤ value.toBits.toNat := Nat.not_le.2 clear
    simp only [clear, positive, Nat.mod_eq_of_lt clear, if_true, decide_false,
      Bool.false_eq_true, if_false]
  · have minus : signBit ≤ value.toBits.toNat := Nat.not_lt.1 clear
    have rest : value.toBits.toNat % signBit = value.toBits.toNat - signBit := by
      unfold signBit at *
      omega
    simp only [clear, minus, rest, if_true, decide_true, if_false]

/-! ## Readings -/

theorem field_eq (value : Float) :
    value.toBits.toNat / hiddenBit % 2048 = magnitude value / hiddenBit := by
  unfold magnitude signBit hiddenBit
  omega

theorem fraction_eq (value : Float) :
    value.toBits.toNat % hiddenBit = magnitude value % hiddenBit := by
  unfold magnitude signBit hiddenBit
  omega

theorem read_eq (value : Float) :
    read value =
      if magnitude value / hiddenBit = 2047 then
        if magnitude value % hiddenBit = 0 then .infinite (negative value) else .nan
      else if magnitude value / hiddenBit = 0 then
        .finite (negative value) (magnitude value % hiddenBit) (-1074)
      else
        .finite (negative value) (hiddenBit + magnitude value % hiddenBit)
          ((magnitude value / hiddenBit : Nat) - 1075) := by
  unfold read
  dsimp only
  rw [field_eq, fraction_eq]
  rfl

theorem units_read (value : Float) :
    (read value).units? =
      if magnitude value / hiddenBit = 2047 then none
      else some (if negative value then -(sizeOf (magnitude value) : Int)
        else sizeOf (magnitude value)) := by
  rw [read_eq]
  split
  · split <;> rfl
  · rw [sizeOf]
    split
    · simp [Reading.units?]
    · rename_i normal
      have exponent : ((magnitude value / hiddenBit : Nat) - 1075 + 1074 : Int).toNat =
          magnitude value / hiddenBit - 1 := by omega
      simp only [Reading.units?, exponent]

theorem finite_of_units {value : Float} {units : Int} (finite : (read value).units? = some units) :
    magnitude value / hiddenBit ≠ 2047 := by
  intro outside
  rw [units_read, if_pos outside] at finite
  exact absurd finite nofun

theorem read_eq_infinite {value : Float} {minus : Bool} (infinite : read value = .infinite minus) :
    magnitude value / hiddenBit = 2047 ∧ negative value = minus := by
  rw [read_eq] at infinite
  split at infinite
  · rename_i outside
    split at infinite
    · exact ⟨outside, Reading.infinite.inj infinite⟩
    · exact absurd infinite nofun
  · split at infinite <;> exact absurd infinite nofun

theorem read_eq_nan_iff (value : Float) :
    read value = .nan ↔
      magnitude value / hiddenBit = 2047 ∧ magnitude value % hiddenBit ≠ 0 := by
  rw [read_eq]
  split
  · rename_i outside
    split
    · rename_i infinite
      exact iff_of_false nofun fun nan => nan.2 infinite
    · rename_i rest
      exact iff_of_true rfl ⟨outside, rest⟩
  · rename_i inside
    split <;> exact iff_of_false nofun fun nan => inside nan.1

theorem magnitude_lt (value : Float) : magnitude value / hiddenBit < 2048 := by
  unfold magnitude signBit hiddenBit
  omega

/-! ## The order -/

/-- Doubles are ordered totally by their places. -/
structure IsTotalOrder (place : Float → Int) : Prop where
  /-- Finite doubles stand in the order of their values, and zero stands behind negative zero. -/
  finite : ∀ {left right : Float} {leftUnits rightUnits : Int},
    (read left).units? = some leftUnits → (read right).units? = some rightUnits →
      (place left < place right ↔ leftUnits < rightUnits ∨
        leftUnits = rightUnits ∧ negative left = true ∧ negative right = false)
  /-- Infinities stand at the ends of the finite doubles. -/
  infinite : ∀ {value infinity : Float} {units : Int} {minus : Bool},
    (read value).units? = some units → read infinity = .infinite minus →
      if minus then place infinity < place value else place value < place infinity
  /-- What is not a number stands beyond all numbers. -/
  undefined : ∀ {value other : Float}, read value ≠ .nan → read other = .nan →
    if negative other then place other < place value else place value < place other

/-- Finite doubles stand in the order of their values, and zero stands behind negative zero. -/
theorem orderKey_lt_iff {left right : Float} {leftUnits rightUnits : Int}
    (leftFinite : (read left).units? = some leftUnits)
    (rightFinite : (read right).units? = some rightUnits) :
    orderKey left < orderKey right ↔ leftUnits < rightUnits ∨
      leftUnits = rightUnits ∧ negative left = true ∧ negative right = false := by
  rw [units_read] at leftFinite rightFinite
  split at leftFinite
  · exact absurd leftFinite nofun
  split at rightFinite
  · exact absurd rightFinite nofun
  obtain rfl := Option.some.inj leftFinite
  obtain rfl := Option.some.inj rightFinite
  have larger := sizeOf_strictMono.lt_iff_lt (a := magnitude left) (b := magnitude right)
  have smaller := sizeOf_strictMono.lt_iff_lt (a := magnitude right) (b := magnitude left)
  rw [orderKey_eq, orderKey_eq]
  cases negative left <;> cases negative right <;> simp <;> omega

/-- What has a larger magnitude stands farther out on the side to which its sign points. -/
theorem orderKey_of_magnitude_lt {left right : Float} (less : magnitude left < magnitude right) :
    if negative right then orderKey right < orderKey left else orderKey left < orderKey right := by
  rw [orderKey_eq, orderKey_eq]
  cases negative left <;> cases negative right <;> simp <;> omega

/-- Infinities stand at the ends of the finite doubles. -/
theorem orderKey_infinite {value infinity : Float} {units : Int} {minus : Bool}
    (finite : (read value).units? = some units) (infinite : read infinity = .infinite minus) :
    if minus then orderKey infinity < orderKey value else orderKey value < orderKey infinity := by
  have inside := finite_of_units finite
  have bound := magnitude_lt value
  obtain ⟨outside, rfl⟩ := read_eq_infinite infinite
  have less : magnitude value < magnitude infinity := by
    unfold hiddenBit at *
    omega
  exact orderKey_of_magnitude_lt less

theorem magnitude_lt_of_nan {value other : Float} (number : read value ≠ .nan)
    (nan : read other = .nan) : magnitude value < magnitude other := by
  have bound := magnitude_lt value
  obtain ⟨outside, rest⟩ := (read_eq_nan_iff other).1 nan
  rw [ne_eq, read_eq_nan_iff, not_and_or, not_not] at number
  unfold hiddenBit at *
  omega

/-- What is not a number stands beyond all numbers. -/
theorem orderKey_nan {value other : Float} (number : read value ≠ .nan) (nan : read other = .nan) :
    if negative other then orderKey other < orderKey value
    else orderKey value < orderKey other :=
  orderKey_of_magnitude_lt (magnitude_lt_of_nan number nan)

theorem isTotalOrder_orderKey : IsTotalOrder orderKey where
  finite := orderKey_lt_iff
  infinite := orderKey_infinite
  undefined := orderKey_nan

end ProviderRouting.Binary64
