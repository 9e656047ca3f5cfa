import ClusterRegister.Calendar.Reading
import ClusterRegister.Proofs.CivilDates
import ClusterRegister.Proofs.Outcomes

/-!
# Reading timestamps back

Every instant is read back from its stored text, leap seconds included where they end a minute. A leap second elsewhere is
written like the second after it, and read as that (`ofText_text`).
-/

namespace ClusterRegister.Calendar

open ClusterRegister.Text

theorem isDigit_of_mem_padded {width n : Nat} {c : Char} (member : c ∈ decimalPadded width n) :
    c.isDigit = true := by
  rcases List.mem_append.1 member with zero | digit
  · rw [List.eq_of_mem_replicate zero]
    rfl
  · exact Nat.isDigit_of_mem_toDigits (by decide) (by decide) digit

private theorem decimalValue_padded (width n : Nat) : decimalValue (decimalPadded width n) = n := by
  rw [decimalValue, decimalPadded, Nat.ofDigitChars_append, Nat.ofDigitChars_replicate_zero, Nat.mul_zero]
  exact decimalValue_decimal n

private theorem length_padded {width n : Nat} (fits : (decimal n).length ≤ width) :
    (decimalPadded width n).length = width := by
  rw [decimalPadded, List.length_append, List.length_replicate]
  omega

theorem padded_ne_nil (width n : Nat) : decimalPadded width n ≠ [] := by
  intro empty
  exact Nat.toDigits_ne_nil (List.append_eq_nil_iff.1 empty).2

private theorem length_decimal_le {n k : Nat} (positive : 0 < k) (small : n < Nat.pow 10 k) :
    (decimal n).length ≤ k :=
  (Nat.length_toDigits_le_iff (by decide) positive).2 small

theorem isBlank_of_isDigit {c : Char} (digit : c.isDigit = true) : isBlank c = false := by
  have bounds : 0x30 ≤ c.toNat ∧ c.toNat ≤ 0x39 := by
    simpa [Char.isDigit, UInt32.le_iff_toNat_le] using digit
  simp only [isBlank, Bool.or_eq_false_iff, Bool.and_eq_false_iff, decide_eq_false_iff_not]
  omega

private theorem trimStart_padded (width n : Nat) (rest : List Char) :
    trimStart (decimalPadded width n ++ rest) = decimalPadded width n ++ rest := by
  obtain ⟨d, ds, split⟩ := List.exists_cons_of_ne_nil (padded_ne_nil width n)
  have digit : d.isDigit = true := isDigit_of_mem_padded (split ▸ .head _ : d ∈ decimalPadded width n)
  rw [split, List.cons_append, trimStart, List.dropWhile_cons_of_neg]
  rw [isBlank_of_isDigit digit]
  decide

/-- As many digits as are asked for are scanned, whatever follows them. -/
theorem scanDigits_width {ds : List Char} (digits : ∀ c ∈ ds, c.isDigit = true) (nonempty : ds ≠ [])
    (rest : List Char) : scanDigits (some ds.length) (ds ++ rest) = .ok (ds, rest) := by
  obtain ⟨d, tail, split⟩ := List.exists_cons_of_ne_nil nonempty
  have run : ((ds ++ rest).takeWhile Char.isDigit).take ds.length = ds := by
    rw [List.takeWhile_append_of_pos digits, List.take_left]
  simp only [scanDigits, run]
  rw [split]
  simp

private theorem scanDigits_all {ds : List Char} (digits : ∀ c ∈ ds, c.isDigit = true) (nonempty : ds ≠ []) {c : Char}
    (not_digit : c.isDigit = false) (rest : List Char) :
    scanDigits none (ds ++ c :: rest) = .ok (ds, c :: rest) := by
  obtain ⟨d, tail, split⟩ := List.exists_cons_of_ne_nil nonempty
  have run : (ds ++ c :: rest).takeWhile Char.isDigit = ds := by
    rw [List.takeWhile_append_of_pos digits, List.takeWhile_cons_of_neg (by simp [not_digit]), List.append_nil]
  simp only [scanDigits, run]
  rw [split]
  simp

private theorem scanField_padded {lo hi n : Nat} (within : lo ≤ n ∧ n ≤ hi) (small : n < 100) (rest : List Char) :
    scanField lo hi (decimalPadded 2 n ++ rest) = .ok (n, rest) := by
  have two : (decimalPadded 2 n).length = 2 := length_padded (length_decimal_le (by decide) small)
  have scanned := scanDigits_width (fun c => isDigit_of_mem_padded) (padded_ne_nil 2 n) rest
  rw [two] at scanned
  rw [scanField, trimStart_padded, scanned]
  simp only [bind, Except.bind, decimalValue_padded, within, and_self, if_true]
  rfl

private theorem scanMark_self {mark : Char} (visible : isBlank mark = false) (rest : List Char) :
    scanMark mark (mark :: rest) = .ok rest := by
  rw [scanMark, trimStart, List.dropWhile_cons_of_neg (by simp [visible])]
  simp

private theorem scanDigits_signed (n : Nat) (rest : List Char) :
    scanDigits none (decimalPadded 4 n ++ '-' :: rest) = .ok (decimalPadded 4 n, '-' :: rest) :=
  scanDigits_all (fun _ => isDigit_of_mem_padded) (padded_ne_nil 4 n) rfl rest

private theorem scanYear_unsigned {n : Nat} (small : n < 10000) (rest : List Char) :
    scanYear (decimalPadded 4 n ++ rest) = .ok (n, rest) := by
  have four : (decimalPadded 4 n).length = 4 := length_padded (length_decimal_le (by decide) small)
  have scanned := scanDigits_width (fun c => isDigit_of_mem_padded) (padded_ne_nil 4 n) rest
  obtain ⟨d, ds, split⟩ := List.exists_cons_of_ne_nil (padded_ne_nil 4 n)
  have digit : d.isDigit = true := isDigit_of_mem_padded (split ▸ .head _ : d ∈ decimalPadded 4 n)
  have not_minus : d ≠ '-' := by
    rintro rfl
    exact absurd digit (by decide)
  have not_plus : d ≠ '+' := by
    rintro rfl
    exact absurd digit (by decide)
  have value := decimalValue_padded 4 n
  rw [four] at scanned
  rw [scanYear, trimStart_padded]
  rw [split, List.cons_append] at scanned ⊢
  rw [split] at value
  split
  · next minus => exact absurd (List.cons.inj minus).1 not_minus
  · next plus => exact absurd (List.cons.inj plus).1 not_plus
  · rw [scanned]
    simp only [bind, Except.bind, value]
    rfl

private theorem scanYear_text {y : Int} (bounds : -262143 ≤ y ∧ y ≤ 262142) (rest : List Char) :
    scanYear (yearText y ++ '-' :: rest) = .ok (y, '-' :: rest) := by
  unfold yearText
  split
  · next nonnegative =>
    have back : ((y.toNat : Nat) : Int) = y := Int.toNat_of_nonneg nonnegative
    split
    · rw [scanYear_unsigned (by omega), back]
    · have bounded : y.toNat < yearBound := by
        rw [yearBound]
        omega
      rw [List.cons_append, scanYear, trimStart, List.dropWhile_cons_of_neg (by decide)]
      simp only [scanDigits_signed, bind, Except.bind, decimalValue_padded, bounded, if_true, back]
      rfl
  · have back : -((y.natAbs : Nat) : Int) = y := by omega
    have bounded : y.natAbs ≤ yearBound := by
      rw [yearBound]
      omega
    rw [List.cons_append, scanYear, trimStart, List.dropWhile_cons_of_neg (by decide)]
    simp only [scanDigits_signed, bind, Except.bind, decimalValue_padded, bounded, if_true, back]
    rfl

/-- A mark between a date and a clock. -/
def SeparatesClock (mark : Char) : Prop := mark = 'T' ∨ mark = ' '

/-- A date is read back up to what separates it from the clock. -/
theorem scanDate_text {d : Date} (valid : d.IsValid) (month : d.month ≤ 12) (day : d.day ≤ 31)
    (bounds : -262143 ≤ d.year ∧ d.year ≤ 262142) {mark : Char} (separates : SeparatesClock mark) (rest : List Char) :
    scanDate (d.text ++ mark :: rest) = .ok (d, rest) := by
  have text : d.text ++ mark :: rest =
      yearText d.year ++ '-' :: (decimalPadded 2 d.month ++ '-' :: (decimalPadded 2 d.day ++ mark :: rest)) := by
    simp [Date.text]
  rw [text, scanDate]
  simp only [bind, Except.bind, scanYear_text bounds, scanMark_self (show isBlank '-' = false by decide),
    scanField_padded ⟨valid.1, month⟩ (show d.month < 100 by omega),
    scanField_padded ⟨valid.2.1, day⟩ (show d.day < 100 by omega)]
  rcases separates with rfl | rfl <;> rfl

/-- Up to nine digits after a point count as the first ones of nine. -/
theorem scanFraction_padded {width n : Nat} (fits : (decimal n).length ≤ width) (most : width ≤ 9)
    (rest : List Char) :
    scanFraction ('.' :: (decimalPadded width n ++ 'Z' :: rest)) =
      .ok (n * Nat.pow 10 (9 - width), 'Z' :: rest) := by
  have length := length_padded fits
  have digits : ∀ c ∈ decimalPadded width n, c.isDigit = true := fun c => isDigit_of_mem_padded
  have run : ((decimalPadded width n ++ 'Z' :: rest).takeWhile Char.isDigit).take 9 = decimalPadded width n := by
    rw [List.takeWhile_append_of_pos digits, List.takeWhile_cons_of_neg (by decide), List.append_nil,
      List.take_of_length_le (by omega)]
  have scanned : scanDigits (some 9) (decimalPadded width n ++ 'Z' :: rest) =
      .ok (decimalPadded width n, 'Z' :: rest) := by
    obtain ⟨d, ds, split⟩ := List.exists_cons_of_ne_nil (padded_ne_nil width n)
    simp only [scanDigits, run]
    rw [split]
    simp
  rw [scanFraction, scanned]
  simp only [bind, Except.bind, decimalValue_padded, length]
  rfl

private theorem scanFraction_text {nanos : Nat} (second : nanos < 1000000000) (rest : List Char) :
    scanFraction (fractionText nanos ++ 'Z' :: rest) = .ok (nanos, 'Z' :: rest) := by
  unfold fractionText
  split
  · next zero =>
    subst zero
    rfl
  split
  · have back : nanos / 1000000 * Nat.pow 10 (9 - 3) = nanos := by
      simp only [Nat.reduceSub, Nat.pow_eq, Nat.reducePow]
      omega
    rw [List.cons_append, scanFraction_padded (length_decimal_le (by decide) (by simp; omega)) (by decide), back]
  split
  · have back : nanos / 1000 * Nat.pow 10 (9 - 6) = nanos := by
      simp only [Nat.reduceSub, Nat.pow_eq, Nat.reducePow]
      omega
    rw [List.cons_append, scanFraction_padded (length_decimal_le (by decide) (by simp; omega)) (by decide), back]
  · have back : nanos * Nat.pow 10 (9 - 9) = nanos := by simp
    rw [List.cons_append, scanFraction_padded (length_decimal_le (by decide) (by simpa using second)) (by decide),
      back]

/-- The clock of an instant as it is written. -/
def Instant.clock (t : Instant) : WrittenClock :=
  ⟨t.secondOfDay / 3600, t.secondOfDay / 60 % 60, t.second, t.fraction⟩

theorem Instant.secondOfDay_lt (t : Instant) : t.secondOfDay < 86400 := by
  rw [Instant.secondOfDay]
  omega

/-- The clock of an instant is read back up to the sign of its offset. -/
theorem scanClock_text (t : Instant) (rest : List Char) :
    scanClock (t.clockText ++ fractionText t.fraction ++ 'Z' :: rest) = .ok (t.clock, 'Z' :: rest) := by
  have day := t.secondOfDay_lt
  have nanos := t.nanos_lt
  have seconds : t.second ≤ 60 := by
    rw [Instant.second]
    omega
  have fraction : t.fraction < 1000000000 := by
    rw [Instant.fraction]
    omega
  have text : t.clockText ++ fractionText t.fraction ++ 'Z' :: rest =
      decimalPadded 2 (t.secondOfDay / 3600) ++ ':' :: (decimalPadded 2 (t.secondOfDay / 60 % 60) ++
        ':' :: (decimalPadded 2 t.second ++ (fractionText t.fraction ++ 'Z' :: rest))) := by
    simp [Instant.clockText]
  have visible : isBlank ':' = false := by decide
  rw [text, scanClock]
  simp only [bind, Except.bind, scanMark_self visible, scanFraction_text fraction,
    scanField_padded (show 0 ≤ t.secondOfDay / 3600 ∧ t.secondOfDay / 3600 ≤ 23 by omega) (by omega),
    scanField_padded (show 0 ≤ t.secondOfDay / 60 % 60 ∧ t.secondOfDay / 60 % 60 ≤ 59 by omega) (by omega),
    scanField_padded (show 0 ≤ t.second ∧ t.second ≤ 60 by omega) (by omega)]
  rfl

/-- A leap second, if there is one, ends a minute. -/
def Instant.LeapEndsMinute (t : Instant) : Prop := 1000000000 ≤ t.nanos → t.seconds % 60 = 59

instance (t : Instant) : Decidable t.LeapEndsMinute := inferInstanceAs (Decidable (_ → _))

/-- An instant without a leap second inside a minute: it counts as the second after it. -/
def Instant.carried (t : Instant) : Instant :=
  if within : 1000000000 ≤ t.nanos ∧ t.seconds % 60 ≠ 59 then
    { seconds := t.seconds + 1
      nanos := t.nanos - 1000000000
      from_first := Int.le_add_one t.from_first
      to_last := by
        have to_last := t.to_last
        have last_ends : lastSecond % 60 = 59 := by decide
        omega
      nanos_lt := Nat.lt_of_le_of_lt (Nat.sub_le _ _) t.nanos_lt }
  else t

theorem Instant.carried_of_leapEndsMinute {t : Instant} (ends : t.LeapEndsMinute) : t.carried = t :=
  dif_neg fun within => within.2 (ends within.1)

/-- A leap second inside a minute is carried over, and nothing else is. -/
theorem Instant.carried_cases (t : Instant) :
    t.LeapEndsMinute ∧ t.carried = t ∨
      1000000000 ≤ t.nanos ∧ t.seconds % 60 ≠ 59 ∧ t.carried.seconds = t.seconds + 1 ∧
        t.carried.nanos = t.nanos - 1000000000 := by
  by_cases within : 1000000000 ≤ t.nanos ∧ t.seconds % 60 ≠ 59
  · exact .inr ⟨within.1, within.2, by rw [carried, dif_pos within], by rw [carried, dif_pos within]⟩
  · have ends : t.LeapEndsMinute := fun leap => Decidable.not_not.1 fun inside => within ⟨leap, inside⟩
    exact .inl ⟨ends, carried_of_leapEndsMinute ends⟩

theorem Instant.leapEndsMinute_carried (t : Instant) : t.carried.LeapEndsMinute := by
  rcases t.carried_cases with ⟨ends, same⟩ | ⟨-, -, -, nanos⟩
  · rwa [same]
  · intro leap
    have nanos_lt := t.nanos_lt
    omega

theorem Instant.date_carried (t : Instant) : t.carried.date = t.date := by
  rcases t.carried_cases with ⟨-, same⟩ | ⟨-, inside, seconds, -⟩
  · rw [same]
  · rw [date, date, seconds, show (t.seconds + 1) / 86400 = t.seconds / 86400 by omega]

theorem Instant.fraction_carried (t : Instant) : t.carried.fraction = t.fraction := by
  rcases t.carried_cases with ⟨-, same⟩ | ⟨leap, -, -, nanos⟩
  · rw [same]
  · rw [fraction, fraction, nanos]
    omega

theorem Instant.clockText_carried (t : Instant) : t.carried.clockText = t.clockText := by
  rcases t.carried_cases with ⟨-, same⟩ | ⟨leap, inside, seconds, nanos⟩
  · rw [same]
  · have bound := t.nanos_lt
    have hour : t.carried.secondOfDay / 3600 = t.secondOfDay / 3600 := by
      rw [secondOfDay, secondOfDay, seconds]
      omega
    have minute : t.carried.secondOfDay / 60 % 60 = t.secondOfDay / 60 % 60 := by
      rw [secondOfDay, secondOfDay, seconds]
      omega
    have second : t.carried.second = t.second := by
      rw [Instant.second, Instant.second, secondOfDay, secondOfDay, seconds, nanos]
      omega
    rw [clockText, clockText, hour, minute, second]

theorem Instant.text_carried (t : Instant) : t.carried.text = t.text := by
  rw [text, text, t.date_carried, t.clockText_carried, t.fraction_carried]

theorem Instant.display_carried (t : Instant) : t.carried.display = t.display := by
  rw [display, display, t.date_carried, t.clockText_carried]

/-- A leap second inside a minute, on the fourth of March 2024 at five past eight. -/
def Instant.leapInside : Instant := ⟨1709539509, 1500000000, by decide, by decide, by decide⟩

private theorem instantAt_clock (t : Instant) : instantAt t.date t.clock 0 = .ok t.carried := by
  obtain ⟨valid, -, -, days⟩ := ofDays_spec (t.seconds / 86400)
  have from_first := t.from_first
  have to_last := t.to_last
  have nanos_lt := t.nanos_lt
  have ⟨least, most⟩ := year_bounds (t.seconds / 86400) (by omega) (by omega)
  have of_day : (t.secondOfDay : Int) = t.seconds % 86400 := by
    rw [Instant.secondOfDay]
    omega
  have in_calendar : ¬ (¬ t.date.IsValid ∨ t.date.year < -262143 ∨ 262142 < t.date.year ∨
      (0 : Int).natAbs ≥ 1440) := by
    rw [Instant.date]
    simp only [valid, not_true_eq_false, false_or, Int.natAbs_zero]
    omega
  have seconds : t.date.toDays * 86400 + (t.clock.hour : Int) * 3600 + ((t.clock.minute : Int) - 0) * 60 +
      ((t.clock.second - t.clock.second / 60 : Nat) : Int) = t.carried.seconds := by
    rw [Instant.date, days]
    simp only [Instant.clock, Instant.second]
    rcases t.carried_cases with ⟨ends, same⟩ | ⟨leap, inside, carried, -⟩
    · have ends : 1000000000 ≤ t.nanos → t.seconds % 60 = 59 := ends
      rw [same]
      omega
    · rw [carried]
      omega
  have whole : t.clock.second / 60 * 1000000000 + t.clock.nanos = t.carried.nanos := by
    simp only [Instant.clock, Instant.second, Instant.fraction]
    rcases t.carried_cases with ⟨ends, same⟩ | ⟨leap, inside, -, carried⟩
    · have ends : 1000000000 ≤ t.nanos → t.seconds % 60 = 59 := ends
      rw [same]
      omega
    · rw [carried]
      omega
  have parts : Instant.ofParts? t.carried.seconds t.carried.nanos = some t.carried := by
    rw [Instant.ofParts?, dif_pos ⟨t.carried.from_first, t.carried.to_last, t.carried.nanos_lt⟩]
  rw [instantAt, if_neg in_calendar]
  simp only [seconds, whole, parts]

/-- An instant is read back from its date, its clock and its fraction. -/
theorem ofText_separated (t : Instant) {mark : Char} (separates : SeparatesClock mark) :
    Instant.ofText (t.date.text ++ mark :: (t.clockText ++ fractionText t.fraction ++ ['Z'])) = .ok t.carried := by
  obtain ⟨valid, month, day, -⟩ := ofDays_spec (t.seconds / 86400)
  have from_first := t.from_first
  have to_last := t.to_last
  have bounds := year_bounds (t.seconds / 86400) (by omega) (by omega)
  have offset : scanOffset ['Z'] = .ok (0, []) := by rfl
  rw [Instant.ofText]
  simp only [bind, Except.bind, Instant.date, scanDate_text valid month day bounds separates, scanClock_text, offset]
  exact instantAt_clock t

/-- An instant is read back from its stored text, where a leap second inside a minute is carried over. -/
theorem ofText_text (t : Instant) : Instant.ofText t.text = .ok t.carried := by
  have text : t.text = t.date.text ++ 'T' :: (t.clockText ++ fractionText t.fraction ++ ['Z']) := by
    simp [Instant.text]
  rw [text]
  exact ofText_separated t (.inl rfl)

private theorem ofDigitChars_lt {ds : List Char} (digits : ∀ c ∈ ds, c.isDigit = true) (n : Nat) :
    Nat.ofDigitChars 10 ds n < (n + 1) * Nat.pow 10 ds.length := by
  induction ds generalizing n with
  | nil => simp
  | cons c ds ih =>
    have digit : c.toNat ≤ 0x39 := by
      have bounds := digits c (.head _)
      simp only [Char.isDigit, Bool.and_eq_true, decide_eq_true_eq, UInt32.le_iff_toNat_le] at bounds
      exact bounds.2
    have later := ih (fun d member => digits d (.tail _ member)) (10 * n + (c.toNat - '0'.toNat))
    have most : 10 * n + (c.toNat - '0'.toNat) + 1 ≤ (n + 1) * 10 := by
      have zero : '0'.toNat = 0x30 := rfl
      omega
    have power : (n + 1) * 10 * Nat.pow 10 ds.length = (n + 1) * Nat.pow 10 (c :: ds).length := by
      rw [Nat.mul_assoc, Nat.mul_comm 10]
      rfl
    rw [Nat.ofDigitChars_cons, ← power]
    exact Nat.lt_of_lt_of_le later (Nat.mul_le_mul_right _ most)

private theorem digits_of_scanDigits {width : Nat} {cs ds rest : List Char}
    (scanned : scanDigits (some width) cs = .ok (ds, rest)) : ds.length ≤ width ∧ ∀ c ∈ ds, c.isDigit = true := by
  have found : ds = (cs.takeWhile Char.isDigit).take width := by
    simp only [scanDigits] at scanned
    split at scanned
    · cases scanned
    · cases scanned
    · cases scanned
      rfl
  rw [found]
  exact ⟨List.length_take_le _ _, fun c member => List.all_eq_true.1 List.all_takeWhile c (List.mem_of_mem_take member)⟩

/-- Nanoseconds that are read are less than a second. -/
theorem scanFraction_lt {cs rest : List Char} {nanos : Nat} (scanned : scanFraction cs = .ok (nanos, rest)) :
    nanos < 1000000000 := by
  rw [scanFraction.eq_def] at scanned
  split at scanned
  · obtain ⟨⟨ds, after⟩, digits, same⟩ := bind_eq_ok scanned
    cases same
    obtain ⟨short, digits⟩ := digits_of_scanDigits digits
    have value := ofDigitChars_lt digits 0
    have whole : 10 ^ ds.length * 10 ^ (9 - ds.length) = 1000000000 := by
      rw [← Nat.pow_add, Nat.add_sub_cancel' short]
    rw [← whole]
    rw [Nat.zero_add, Nat.one_mul] at value
    exact Nat.mul_lt_mul_of_pos_right value (Nat.pow_pos (by decide))
  · cases scanned
    decide

private theorem scanField_le {lo hi n : Nat} {cs rest : List Char} (scanned : scanField lo hi cs = .ok (n, rest)) :
    n ≤ hi := by
  obtain ⟨⟨ds, after⟩, digits, bounded⟩ := bind_eq_ok scanned
  simp only at bounded
  split at bounded
  · next within =>
    cases bounded
    exact within.2
  · cases bounded

private theorem bounds_of_scanClock {cs rest : List Char} {clock : WrittenClock}
    (scanned : scanClock cs = .ok (clock, rest)) :
    clock.second ≤ 60 ∧ clock.nanos < 1000000000 := by
  obtain ⟨⟨hour, _⟩, _, scanned⟩ := bind_eq_ok scanned
  obtain ⟨_, _, scanned⟩ := bind_eq_ok scanned
  obtain ⟨⟨minute, _⟩, _, scanned⟩ := bind_eq_ok scanned
  obtain ⟨_, _, scanned⟩ := bind_eq_ok scanned
  obtain ⟨⟨second, _⟩, seconds, scanned⟩ := bind_eq_ok scanned
  obtain ⟨⟨nanos, _⟩, fraction, same⟩ := bind_eq_ok scanned
  cases same
  exact ⟨scanField_le seconds, scanFraction_lt fraction⟩

/-- The second 60 of any minute is read as a leap second that ends it. -/
theorem leapEndsMinute_of_instantAt {date : Date} {clock : WrittenClock} (second : clock.second ≤ 60)
    (nanos : clock.nanos < 1000000000) {offset : Int} {t : Instant} (read : instantAt date clock offset = .ok t) :
    t.LeapEndsMinute := by
  rw [instantAt] at read
  split at read
  · cases read
  · simp only [Instant.ofParts?] at read
    split at read
    · next found =>
      split at found
      · cases found
        cases read
        intro leap
        simp only at leap ⊢
        omega
      · cases found
    · cases read

/-- A leap second that is read from any text ends a minute. -/
theorem leapEndsMinute_of_ofText {cs : List Char} {t : Instant} (read : Instant.ofText cs = .ok t) :
    t.LeapEndsMinute := by
  obtain ⟨⟨date, _⟩, _, read⟩ := bind_eq_ok read
  obtain ⟨⟨clock, _⟩, scanned, read⟩ := bind_eq_ok read
  obtain ⟨⟨offset, rest⟩, _, read⟩ := bind_eq_ok read
  obtain ⟨second, nanos⟩ := bounds_of_scanClock scanned
  simp only at read
  split at read
  · cases read
  · exact leapEndsMinute_of_instantAt second nanos read

end ClusterRegister.Calendar
