/-!
# Doubles as numbers

A double is read from its bits: a finite one is a signed mantissa times a power of two.  On top of
that stand the total order of doubles, rounding to whole numbers, and conversion to machine words,
where values out of range go to the nearest bound and what is not a number goes to zero.
-/

namespace ProviderRouting.Binary64

/-- A double, read from its bits. -/
inductive Reading where
  /-- Not a number. -/
  | nan
  /-- An infinity with its sign. -/
  | infinite (negative : Bool)
  /-- The number `mantissa * 2 ^ exponent`, negated if `negative`. -/
  | finite (negative : Bool) (mantissa : Nat) (exponent : Int)
deriving DecidableEq

/-- The smallest mantissa of a normal double. -/
def hiddenBit : Nat := 4503599627370496

/-- The bit of the sign. -/
def signBit : Nat := 9223372036854775808

/-- Read a double from its bits. -/
def read (value : Float) : Reading :=
  let bits := value.toBits.toNat
  let negative : Bool := signBit ≤ bits
  let field : Nat := bits / hiddenBit % 2048
  let fraction : Nat := bits % hiddenBit
  if field = 2047 then
    if fraction = 0 then .infinite negative else .nan
  else if field = 0 then
    .finite negative fraction (-1074)
  else
    .finite negative (hiddenBit + fraction) ((field : Int) - 1075)

/-- The place of a double in the total order in which `-0.0` stands before `0.0` and what is not a
number stands after all numbers.  There is one double that is not a number, and it has no sign. -/
def orderKey (value : Float) : Int :=
  let bits := value.toBits.toNat
  if bits < signBit then bits else -((bits - signBit : Nat) : Int) - 1

/-- The whole number nearest to a double, halves going up; below zero it is zero. -/
def round (value : Float) : Nat :=
  let whole := value.toUInt64
  if value - whole.toFloat ≥ 0.5 then whole.toNat + 1 else whole.toNat

/-- The least whole number that a double does not exceed, as a 64-bit word. -/
def ceil (value : Float) : Nat :=
  let whole := value.toUInt64
  if whole.toFloat < value ∧ whole.toNat + 1 < UInt64.size then whole.toNat + 1 else whole.toNat

/-- A 64-bit word as the nearest double. -/
def ofNat (value : Nat) : Float := value.toUInt64.toFloat

/-- Bring a double between two bounds; what is not a number stays as it is. -/
def clamp (value low high : Float) : Float :=
  if value < low then low else if value > high then high else value

/-- The distance from one to the next double. -/
def epsilon : Float := Float.ofBits 0x3cb0000000000000

end ProviderRouting.Binary64
