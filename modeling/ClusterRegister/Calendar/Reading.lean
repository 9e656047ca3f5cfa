import ClusterRegister.Calendar.Instant
import ClusterRegister.Text.Blank

/-!
# Reading timestamps

A relaxed form of RFC 3339. Year, month, day, hour, minute and second may have blanks around them and
may be shorter than usual, a year may have a sign and then any number of digits, and date and clock
are separated by `T` or one blank. The offset from UTC is `Z`, `UTC` or a signed number of hours and
minutes. A second 60 is a leap second.
-/

namespace ClusterRegister.Calendar

open ClusterRegister.Text

/-- Why a text is no timestamp. -/
inductive TimestampFault
  | outOfRange
  | impossible
  | invalid
  | tooShort
  | trailing
deriving DecidableEq, Repr

/-- What is wrong, in words. -/
def TimestampFault.message : TimestampFault → String
  | .outOfRange => "input is out of range"
  | .impossible => "no possible date and time matching input"
  | .invalid => "input contains invalid characters"
  | .tooShort => "premature end of input"
  | .trailing => "trailing input"

/-- Digits at the head of a text, at least one; if a width is given, at most so many. -/
def scanDigits (width : Option Nat) (cs : List Char) : Except TimestampFault (List Char × List Char) :=
  let run := cs.takeWhile Char.isDigit
  let ds := match width with
    | some w => run.take w
    | none => run
  match ds, cs with
  | [], [] => .error .tooShort
  | [], _ :: _ => .error .invalid
  | _ :: _, _ => .ok (ds, cs.drop ds.length)

/-- A number within bounds, in at most two digits, with blanks before it. -/
def scanField (lo hi : Nat) (cs : List Char) : Except TimestampFault (Nat × List Char) := do
  let (ds, rest) ← scanDigits (some 2) (trimStart cs)
  let n := decimalValue ds
  if lo ≤ n ∧ n ≤ hi then pure (n, rest) else throw .outOfRange

/-- The bounds of a year that can be considered at all. -/
def yearBound : Nat := 2147483648

/-- A year: four digits at most, or a sign and any number of digits; with blanks before it. -/
def scanYear (cs : List Char) : Except TimestampFault (Int × List Char) := do
  match trimStart cs with
  | '-' :: rest =>
    let (ds, rest) ← scanDigits none rest
    if decimalValue ds ≤ yearBound then pure (-(decimalValue ds : Int), rest) else throw .outOfRange
  | '+' :: rest =>
    let (ds, rest) ← scanDigits none rest
    if decimalValue ds < yearBound then pure ((decimalValue ds : Int), rest) else throw .outOfRange
  | rest =>
    let (ds, rest) ← scanDigits (some 4) rest
    pure ((decimalValue ds : Int), rest)

/-- A given character after blanks. -/
def scanMark (mark : Char) (cs : List Char) : Except TimestampFault (List Char) :=
  match trimStart cs with
  | [] => .error .tooShort
  | c :: rest => if c = mark then .ok rest else .error .invalid

/-- Nanoseconds: up to nine digits after a point, further ones ignored; zero without a point. -/
def scanFraction (cs : List Char) : Except TimestampFault (Nat × List Char) :=
  match cs with
  | '.' :: rest => do
    let (ds, after) ← scanDigits (some 9) rest
    pure (decimalValue ds * Nat.pow 10 (9 - ds.length), after.dropWhile Char.isDigit)
  | _ => .ok (0, cs)

/-- Two digits of which the first is at most `most`; a larger first digit is out of range. -/
def scanPair (most : Char) (cs : List Char) : Except TimestampFault (Nat × List Char) :=
  match cs with
  | [] => .error .tooShort
  | [c] => .error (if c.toNat < 128 then .tooShort else .invalid)
  | c :: d :: rest =>
    if c.isDigit && d.isDigit then
      if c ≤ most then .ok (decimalValue [c, d], rest) else .error .outOfRange
    else .error .invalid

/-- Minutes east of UTC, in hours and minutes, between which colons and blanks may stand. -/
def scanHoursMinutes (cs : List Char) : Except TimestampFault (Int × List Char) := do
  let (hours, rest) ← scanPair '9' cs
  let (minutes, rest) ← scanPair '5' (rest.dropWhile (fun c => c = ':' || isBlank c))
  pure (((hours * 60 + minutes : Nat) : Int), rest)

/-- Minutes east of UTC. -/
def scanOffset (cs : List Char) : Except TimestampFault (Int × List Char) :=
  if (cs.take 3).map Char.toLower = ['u', 't', 'c'] then .ok (0, cs.drop 3)
  else
    match cs with
    | [] => .error .tooShort
    | c :: rest =>
      if c = 'Z' || c = 'z' then .ok (0, rest)
      else if c = '+' then scanHoursMinutes rest
      else if c = '-' || c = '\u2212' then do
        let (minutes, rest) ← scanHoursMinutes rest
        pure (-minutes, rest)
      else .error .invalid

/-- A date, and the character that separates it from the clock. -/
def scanDate (cs : List Char) : Except TimestampFault (Date × List Char) := do
  let (year, rest) ← scanYear cs
  let rest ← scanMark '-' rest
  let (month, rest) ← scanField 1 12 rest
  let rest ← scanMark '-' rest
  let (day, rest) ← scanField 1 31 rest
  match rest with
  | [] => throw .tooShort
  | c :: rest => if c = 'T' || c = 't' || c = ' ' then pure (⟨year, month, day⟩, rest) else throw .invalid

/-- A time of day as written: hour, minute, second up to 60, nanoseconds. -/
structure WrittenClock where
  hour : Nat
  minute : Nat
  second : Nat
  nanos : Nat
deriving DecidableEq, Repr

def scanClock (cs : List Char) : Except TimestampFault (WrittenClock × List Char) := do
  let (hour, rest) ← scanField 0 23 cs
  let rest ← scanMark ':' rest
  let (minute, rest) ← scanField 0 59 rest
  let rest ← scanMark ':' rest
  let (second, rest) ← scanField 0 60 rest
  let (nanos, rest) ← scanFraction rest
  pure (⟨hour, minute, second, nanos⟩, trimStart rest)

/-- The instant of a date and a clock that are `offset` minutes east of UTC. A second 60 is the leap
second after the 59th. -/
def instantAt (date : Date) (clock : WrittenClock) (offset : Int) : Except TimestampFault Instant :=
  if ¬ date.IsValid ∨ date.year < -262143 ∨ 262142 < date.year ∨ offset.natAbs ≥ 1440 then
    .error .outOfRange
  else
    let leap := clock.second / 60
    let seconds := date.toDays * 86400 + clock.hour * 3600 + (clock.minute - offset) * 60 +
      (clock.second - leap : Nat)
    match Instant.ofParts? seconds (leap * 1000000000 + clock.nanos) with
    | some t => .ok t
    | none => .error .impossible

def Instant.ofText (cs : List Char) : Except TimestampFault Instant := do
  let (date, rest) ← scanDate cs
  let (clock, rest) ← scanClock rest
  let (offset, rest) ← scanOffset rest
  if trimStart rest ≠ [] then throw .trailing
  instantAt date clock offset

end ClusterRegister.Calendar
