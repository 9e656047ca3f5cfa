import ClusterRegister.Calendar.Instant

/-!
# Dates and counts of days

Every day has a date of the calendar, and the date counts as that day.
-/

namespace ClusterRegister.Calendar

private theorem daysBeforeYear_succ (y : Int) :
    daysBeforeYear (y + 1) = daysBeforeYear y + if isLeapYear y then 366 else 365 := by
  have leap : isLeapYear y = true ↔ y % 4 = 0 ∧ (y % 100 ≠ 0 ∨ y % 400 = 0) := by
    simp [isLeapYear]
  unfold daysBeforeYear
  by_cases every_fourth : isLeapYear y = true
  · have := leap.1 every_fourth
    rw [if_pos every_fourth]
    omega
  · have := mt leap.2 every_fourth
    rw [if_neg every_fourth]
    omega

private theorem daysBeforeYear_mono {y z : Int} (below : y ≤ z) : daysBeforeYear y ≤ daysBeforeYear z := by
  unfold daysBeforeYear
  omega

/-- The estimate by the mean length of a year is off by one at most. -/
theorem guess_close (n : Int) :
    daysBeforeYear (400 * n / 146097) ≤ n ∧ n < daysBeforeYear (400 * n / 146097 + 3) := by
  unfold daysBeforeYear
  omega

private theorem yearOfDay_bounds (n : Int) :
    daysBeforeYear (yearOfDay n) ≤ n ∧ n < daysBeforeYear (yearOfDay n + 1) := by
  have close := guess_close n
  simp only [yearOfDay]
  split
  · next early =>
    have year : 400 * n / 146097 + 1 - 1 = 400 * n / 146097 := by omega
    rw [year]
    exact ⟨close.1, early⟩
  · next not_early =>
    split
    · next late => exact ⟨late, by rw [show 400 * n / 146097 + 1 + 1 + 1 = 400 * n / 146097 + 3 by omega]; exact close.2⟩
    · next not_late => exact ⟨by omega, by omega⟩

def daysIn (lengths : List Nat) : Nat := lengths.foldl (· + ·) 0

private theorem daysIn_cons (length : Nat) (rest : List Nat) : daysIn (length :: rest) = length + daysIn rest := by
  have shift : ∀ (l : List Nat) (a : Nat), l.foldl (· + ·) a = a + l.foldl (· + ·) 0 := by
    intro l
    induction l with
    | nil => simp
    | cons head tail ih =>
      intro a
      rw [List.foldl_cons, List.foldl_cons, ih (a + head), ih (0 + head)]
      omega
  rw [daysIn, List.foldl_cons, shift, Nat.zero_add]
  rfl

private theorem daysIn_monthLengths (y : Int) : daysIn (monthLengths y) = if isLeapYear y then 366 else 365 := by
  unfold monthLengths
  split <;> rfl

/-- Within the months that follow each other, a day has a month and a day of that month that count as
it. -/
theorem monthOfDay_spec (first : Nat) {lengths : List Nat} {n : Nat} (inside : n < daysIn lengths) :
    ∃ before length, lengths[before]? = some length ∧ (monthOfDay first lengths n).1 = first + before ∧
      1 ≤ (monthOfDay first lengths n).2 ∧ (monthOfDay first lengths n).2 ≤ length ∧
      daysIn (lengths.take before) + (monthOfDay first lengths n).2 = n + 1 := by
  induction lengths generalizing first n with
  | nil => simp [daysIn] at inside
  | cons length rest ih =>
    by_cases here : n < length
    · have at_once : monthOfDay first (length :: rest) n = (first, n + 1) := by rw [monthOfDay, if_pos here]
      rw [at_once]
      refine ⟨0, length, rfl, rfl, Nat.succ_pos n, here, ?_⟩
      rw [List.take_zero, daysIn, List.foldl_nil, Nat.zero_add]
    · rw [daysIn_cons] at inside
      obtain ⟨before, found, at_month, month, least, most, counted⟩ := ih (first + 1) (n := n - length) (by omega)
      refine ⟨before + 1, found, at_month, ?_, ?_, ?_, ?_⟩
      · simp only [monthOfDay, here, if_false, month]
        omega
      · simpa only [monthOfDay, here, if_false] using least
      · simpa only [monthOfDay, here, if_false] using most
      · rw [List.take_succ_cons, daysIn_cons]
        simp only [monthOfDay, here, if_false]
        omega

private theorem monthLengths_bounds (y : Int) {before length : Nat}
    (found : (monthLengths y)[before]? = some length) : before < 12 ∧ length ≤ 31 := by
  have inside : before < (monthLengths y).length := (List.getElem?_eq_some_iff.1 found).1
  have member := List.mem_of_getElem? found
  refine ⟨inside, ?_⟩
  simp only [monthLengths, List.mem_cons, List.not_mem_nil, or_false] at member
  split at member <;> omega

/-- The date of a day is one of the calendar, and it counts as that day. -/
theorem ofDays_spec (days : Int) :
    (Date.ofDays days).IsValid ∧ (Date.ofDays days).month ≤ 12 ∧ (Date.ofDays days).day ≤ 31 ∧
      (Date.ofDays days).toDays = days := by
  have ⟨started, not_over⟩ := yearOfDay_bounds (days + epochDay)
  have year_length := daysBeforeYear_succ (yearOfDay (days + epochDay))
  have months := daysIn_monthLengths (yearOfDay (days + epochDay))
  have inside : (days + epochDay - daysBeforeYear (yearOfDay (days + epochDay))).toNat <
      daysIn (monthLengths (yearOfDay (days + epochDay))) := by
    rw [months]
    split at year_length <;> simp_all <;> omega
  obtain ⟨before, length, found, month, least, most, counted⟩ := monthOfDay_spec 1 inside
  have ⟨month_bound, day_bound⟩ := monthLengths_bounds _ found
  have month_index : (Date.ofDays days).month - 1 = before := by
    simp only [Date.ofDays, month]
    omega
  refine ⟨⟨?_, least, ?_⟩, ?_, ?_, ?_⟩
  · simp only [Date.ofDays, month]
    omega
  · rw [month_index]
    simp only [Date.ofDays]
    rw [found]
    exact most
  · simp only [Date.ofDays, month]
    omega
  · exact Nat.le_trans most day_bound
  · rw [Date.toDays, daysBeforeMonth, month_index]
    simp only [Date.ofDays]
    rw [daysIn] at counted
    omega

theorem year_bounds (days : Int) (from_first : firstSecond ≤ days * 86400 + 86399)
    (to_last : days * 86400 ≤ lastSecond) :
    -262143 ≤ (Date.ofDays days).year ∧ (Date.ofDays days).year ≤ 262142 := by
  have ⟨started, not_over⟩ := yearOfDay_bounds (days + epochDay)
  have year : (Date.ofDays days).year = yearOfDay (days + epochDay) := rfl
  rw [year]
  simp only [firstSecond, lastSecond, epochDay] at *
  constructor
  · by_cases early : yearOfDay (days + 719162) < -262143
    · have := daysBeforeYear_mono (show yearOfDay (days + 719162) + 1 ≤ -262143 by omega)
      have first_day : daysBeforeYear (-262143) = -95746130 := by decide
      omega
    · omega
  · by_cases late : 262142 < yearOfDay (days + 719162)
    · have := daysBeforeYear_mono (show 262143 ≤ yearOfDay (days + 719162) by omega)
      have last_day : daysBeforeYear 262143 = 95745399 := by decide
      omega
    · omega

end ClusterRegister.Calendar
