import ClusterRegister.Calendar.Date
import ClusterRegister.Text.Decimal

/-!
# Instants

Points of time in UTC to the nanosecond, leap seconds included, and their two texts: the stored one
(RFC 3339) and the one shown to operators.
-/

namespace ClusterRegister.Calendar

open ClusterRegister.Text

/-- The first second of year -262143. -/
def firstSecond : Int := -8334601228800

/-- The last second of year 262142. -/
def lastSecond : Int := 8210266876799

/-- A point of time: whole seconds since the epoch and nanoseconds of that second. Nanoseconds from `10 ^ 9` are those of
a leap second that follows it. Leap seconds end minutes, but nothing here asks that of an instant. -/
structure Instant where
  seconds : Int
  nanos : Nat
  from_first : firstSecond ≤ seconds
  to_last : seconds ≤ lastSecond
  nanos_lt : nanos < 2000000000
deriving DecidableEq, Repr

namespace Instant

/-- The instant of seconds and nanoseconds, if there is one. -/
def ofParts? (seconds : Int) (nanos : Nat) : Option Instant :=
  if h : firstSecond ≤ seconds ∧ seconds ≤ lastSecond ∧ nanos < 2000000000 then
    some ⟨seconds, nanos, h.1, h.2.1, h.2.2⟩
  else none

def epoch : Instant := ⟨0, 0, by decide, by decide, by decide⟩

instance : Inhabited Instant := ⟨epoch⟩

def date (t : Instant) : Date := Date.ofDays (t.seconds / 86400)

def secondOfDay (t : Instant) : Nat := (t.seconds % 86400).toNat

/-- The second of its minute, one more in a leap second. -/
def second (t : Instant) : Nat := t.secondOfDay % 60 + t.nanos / 1000000000

/-- The nanoseconds of its second, a leap second counted as one of its own. -/
def fraction (t : Instant) : Nat := t.nanos % 1000000000

end Instant

/-- Years from 0 to 9999 have four digits; others have a sign and at least four. -/
def yearText (y : Int) : List Char :=
  if 0 ≤ y then
    if y ≤ 9999 then decimalPadded 4 y.toNat else '+' :: decimalPadded 4 y.toNat
  else '-' :: decimalPadded 4 y.natAbs

/-- Year, month and day. -/
def Date.text (d : Date) : List Char :=
  yearText d.year ++ '-' :: decimalPadded 2 d.month ++ '-' :: decimalPadded 2 d.day

/-- Hour, minute and second. -/
def Instant.clockText (t : Instant) : List Char :=
  decimalPadded 2 (t.secondOfDay / 3600) ++ ':' :: decimalPadded 2 (t.secondOfDay / 60 % 60) ++
    ':' :: decimalPadded 2 t.second

/-- A fraction of a second in as many digits as it needs, of none, three, six and nine. -/
def fractionText (nanos : Nat) : List Char :=
  if nanos = 0 then []
  else if nanos % 1000000 = 0 then '.' :: decimalPadded 3 (nanos / 1000000)
  else if nanos % 1000 = 0 then '.' :: decimalPadded 6 (nanos / 1000)
  else '.' :: decimalPadded 9 nanos

/-- The stored text: RFC 3339 in UTC. -/
def Instant.text (t : Instant) : List Char :=
  t.date.text ++ 'T' :: t.clockText ++ fractionText t.fraction ++ ['Z']

/-- The text shown to operators, to the second. -/
def Instant.display (t : Instant) : List Char := t.date.text ++ ' ' :: t.clockText

end ClusterRegister.Calendar
