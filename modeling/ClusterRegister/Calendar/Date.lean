/-!
# Civil dates

The proleptic Gregorian calendar: dates as a count of days, and back.
-/

namespace ClusterRegister.Calendar

/-- A day by its year (zero and negative years before the first), month from 1 and day from 1. -/
structure Date where
  year : Int
  month : Nat
  day : Nat
deriving DecidableEq, Repr

/-- Every fourth year is a leap year, but of the full centuries only every fourth. -/
def isLeapYear (y : Int) : Bool := y % 4 = 0 && (y % 100 ≠ 0 || y % 400 = 0)

/-- The lengths of the months of a year. -/
def monthLengths (y : Int) : List Nat :=
  [31, if isLeapYear y then 29 else 28, 31, 30, 31, 30, 31, 31, 30, 31, 30, 31]

/-- The days from the first of January of year 1 to that of another year. -/
def daysBeforeYear (y : Int) : Int :=
  365 * (y - 1) + (y - 1) / 4 - (y - 1) / 100 + (y - 1) / 400

/-- The days of a year before one of its months. -/
def daysBeforeMonth (y : Int) (m : Nat) : Nat := ((monthLengths y).take (m - 1)).foldl (· + ·) 0

/-- The days of the epoch, the first of January 1970, after the first of January of year 1. -/
def epochDay : Int := 719162

def Date.IsValid (d : Date) : Prop :=
  1 ≤ d.month ∧ 1 ≤ d.day ∧ d.day ≤ ((monthLengths d.year)[d.month - 1]?).getD 0

instance (d : Date) : Decidable d.IsValid := by unfold Date.IsValid; infer_instance

/-- The days from the epoch to a date. -/
def Date.toDays (d : Date) : Int :=
  daysBeforeYear d.year + daysBeforeMonth d.year d.month + d.day - 1 - epochDay

/-- The year of a day counted from the first of January of year 1: an estimate by the mean length of a
year is off by one at most. -/
def yearOfDay (n : Int) : Int :=
  let guess := 400 * n / 146097 + 1
  if n < daysBeforeYear guess then guess - 1
  else if daysBeforeYear (guess + 1) ≤ n then guess + 1
  else guess

/-- The month (from `first`) and the day (from 1) of a day of the year counted from 0. -/
def monthOfDay (first : Nat) : List Nat → Nat → Nat × Nat
  | [], n => (first, n + 1)
  | length :: rest, n => if n < length then (first, n + 1) else monthOfDay (first + 1) rest (n - length)

/-- The date of a day counted from the epoch. -/
def Date.ofDays (days : Int) : Date :=
  let n := days + epochDay
  let y := yearOfDay n
  let (m, d) := monthOfDay 1 (monthLengths y) (n - daysBeforeYear y).toNat
  ⟨y, m, d⟩

end ClusterRegister.Calendar
