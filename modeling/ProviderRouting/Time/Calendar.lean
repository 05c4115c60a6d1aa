/-!
# Calendar

Days are numbered in the Gregorian calendar extended to all years, the first day of the year one
being day zero.  `Date.dayNumber` and `Date.ofDayNumber` lead from dates to numbers and back.
-/

namespace ProviderRouting

/-- A day of the calendar. -/
structure Date where
  /-- The year. -/
  year : Int
  /-- The month, counted from one. -/
  month : Nat
  /-- The day of the month, counted from one. -/
  day : Nat
deriving DecidableEq, Inhabited

namespace Date

/-- Whether a year has a leap day. -/
def isLeapYear (year : Int) : Bool := year % 4 = 0 && (year % 100 ≠ 0 || year % 400 = 0)

/-- The lengths of the months of a year. -/
def monthLengths (year : Int) : List Nat :=
  [31, if isLeapYear year then 29 else 28, 31, 30, 31, 30, 31, 31, 30, 31, 30, 31]

/-- The number of the first day of a year. -/
def firstDayOf (year : Int) : Int :=
  let past := year - 1
  365 * past + past / 4 - past / 100 + past / 400

/-- The first and the last year that are dealt with. -/
def yearRange : Int × Int := (-262143, 262142)

/-- The day with a given year, month and day, if there is one in the range of years. -/
def of? (year : Int) (month day : Nat) : Option Date :=
  if yearRange.1 ≤ year ∧ year ≤ yearRange.2 ∧ 1 ≤ month ∧ 1 ≤ day
      ∧ day ≤ ((monthLengths year)[month - 1]?).getD 0 then
    some ⟨year, month, day⟩
  else none

/-- The number of a day. -/
def dayNumber (date : Date) : Int :=
  let past : Nat := ((monthLengths date.year).take (date.month - 1)).foldr (· + ·) 0
  firstDayOf date.year + past + (date.day - 1 : Nat)

/-- The month and day that stand `days` after the start of the given months. -/
def inMonths : (month : Nat) → (lengths : List Nat) → (days : Nat) → Nat × Nat
  | month, length :: rest, days =>
    if days < length then (month, days + 1) else inMonths (month + 1) rest (days - length)
  | month, [], days => (month, days + 1)

/-- The day with a given number.  Four hundred years have 146097 days, a century that ends without a
leap day 36524, four years with one 1461. -/
def ofDayNumber (number : Int) : Date :=
  let cycle := number / 146097
  let inCycle := (number % 146097).toNat
  let century := min (inCycle / 36524) 3
  let inCentury := inCycle - 36524 * century
  let quad := inCentury / 1461
  let inQuad := inCentury % 1461
  let single := min (inQuad / 365) 3
  let year := 400 * cycle + (100 * century + 4 * quad + single : Nat) + 1
  let (month, day) := inMonths 1 (monthLengths year) (inQuad - 365 * single)
  ⟨year, month, day⟩

end Date

end ProviderRouting
