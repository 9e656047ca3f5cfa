import ClusterRegister.Json.Printer
import ClusterRegister.Json.Scan
import ClusterRegister.Proofs.Utf8RoundTrip

/-!
# Reading JSON text back

Strings and numbers are read back from their written text, whatever follows a string, and if no more of
a number follows the number.
-/

namespace ClusterRegister.Json

open ClusterRegister.Text

theorem encodeChar_ascii {c : Char} (ascii : c.toNat < 0x80) : String.utf8EncodeChar c = [byte c] := by
  have most : c.val.toNat ≤ 0x7F := Nat.le_of_lt_succ ascii
  simp only [String.utf8EncodeChar]
  rw [if_pos most]
  rfl

theorem encode_ascii {cs : List Char} (ascii : ∀ c ∈ cs, c.toNat < 0x80) : Utf8.encode cs = cs.map byte := by
  induction cs with
  | nil => rfl
  | cons c rest ih =>
    have tail := ih fun d later => ascii d (.tail _ later)
    rw [Utf8.encode, List.flatMap_cons, encodeChar_ascii (ascii c (.head _))]
    exact congrArg (byte c :: ·) tail

theorem encode_singleton (c : Char) : Utf8.encode [c] = String.utf8EncodeChar c := List.append_nil _

theorem byte_toNat {c : Char} (ascii : c.toNat < 0x100) : (byte c).toNat = c.toNat := by
  simp only [byte, Nat.toUInt8_eq, UInt8.toNat_ofNat']
  omega

theorem byte_ne {c d : Char} (small : c.toNat < 0x100) (other_small : d.toNat < 0x100) (other : c ≠ d) :
    byte c ≠ byte d := by
  intro same
  have numbers := congrArg UInt8.toNat same
  rw [byte_toNat small, byte_toNat other_small] at numbers
  exact other (Char.toNat_inj.1 numbers)

private theorem encodeChar_above {c : Char} (beyond : 0x80 ≤ c.toNat) {b : UInt8}
    (member : b ∈ String.utf8EncodeChar c) : 0x80 ≤ b.toNat := by
  have scalar := Utf8.scalar_value c
  have value : c.val.toNat = c.toNat := rfl
  simp only [String.utf8EncodeChar, value] at member
  rw [if_neg (by omega)] at member
  split at member
  · simp only [List.mem_cons, List.not_mem_nil, or_false] at member
    rcases member with rfl | rfl <;> rw [UInt8.toNat_ofNat'] <;> omega
  split at member
  · simp only [List.mem_cons, List.not_mem_nil, or_false] at member
    rcases member with rfl | rfl | rfl <;> rw [UInt8.toNat_ofNat'] <;> omega
  · simp only [List.mem_cons, List.not_mem_nil, or_false] at member
    rcases member with rfl | rfl | rfl | rfl <;> rw [UInt8.toNat_ofNat'] <;> omega

theorem skipSpace_cons {b : UInt8} (not_space : isSpace b = false) (s : Bytes) : skipSpace (b :: s) = b :: s :=
  List.dropWhile_cons_of_neg (by rw [not_space]; decide)

/-- A byte that stands for itself inside a string. -/
def Plain (b : UInt8) : Prop := b ≠ byte '\x22' ∧ b ≠ byte '\\' ∧ ¬ b < 0x20

private theorem plain_of_above {b : UInt8} (above : 0x80 ≤ b.toNat) : Plain b := by
  refine ⟨?_, ?_, ?_⟩
  · rintro rfl
    exact absurd above (by decide)
  · rintro rfl
    exact absurd above (by decide)
  · rw [UInt8.lt_iff_toNat_lt]
    simp only [UInt8.reduceToNat]
    omega

theorem plain_bytes {c : Char} (not_quote : c ≠ '\x22') (not_backslash : c ≠ '\\')
    (not_control : ¬ c.toNat < 0x20) : ∀ b ∈ String.utf8EncodeChar c, Plain b := by
  intro b member
  by_cases ascii : c.toNat < 0x80
  · rw [encodeChar_ascii ascii, List.mem_singleton] at member
    subst member
    have small : c.toNat < 0x100 := by omega
    refine ⟨byte_ne small (by decide) not_quote, byte_ne small (by decide) not_backslash, ?_⟩
    rw [UInt8.lt_iff_toNat_lt, byte_toNat small]
    exact not_control
  · exact plain_of_above (encodeChar_above (by omega) member)

/-- Content that is read, with more content before it. -/
def prepend (bs : Bytes) (read : Bytes × Bytes) : Bytes × Bytes := (bs ++ read.1, read.2)

private theorem map_prepend_nil (read : Except Fault (Bytes × Bytes)) : read.map (prepend []) = read := by
  cases read <;> rfl

private theorem map_prepend_cons (b : UInt8) (bs : Bytes) (read : Except Fault (Bytes × Bytes)) :
    (read.map (prepend bs)).map (prepend [b]) = read.map (prepend (b :: bs)) := by
  cases read <;> rfl

theorem scanContent_plain {bs : Bytes} (plain : ∀ b ∈ bs, Plain b) (s : Bytes) :
    scanContent (bs ++ s) = (scanContent s).map (prepend bs) := by
  induction bs with
  | nil => exact (map_prepend_nil _).symm
  | cons b bs ih =>
    obtain ⟨not_quote, not_backslash, not_control⟩ := plain b (.head _)
    have tail := ih fun d member => plain d (.tail _ member)
    rw [List.cons_append, scanContent.eq_def]
    simp only [not_quote, not_backslash, not_control, if_false]
    rw [tail, ← map_prepend_cons]
    cases (scanContent s).map (prepend bs) <;> rfl

theorem scanContent_short {e b : UInt8} (not_unicode : e ≠ byte 'u') (meaning : shortEscape e = some b)
    (s : Bytes) : scanContent (byte '\\' :: e :: s) = (scanContent s).map (prepend [b]) := by
  have not_quote : byte '\\' ≠ byte '\x22' := by decide
  rw [scanContent.eq_def]
  simp only [not_quote, not_unicode, if_false, if_true, meaning]
  cases scanContent s <;> rfl

/-- An escape of four hexadecimal digits that is no surrogate is read as its character. -/
theorem scanContent_unicode {h₁ h₂ h₃ h₄ : UInt8} {n : Nat} (meaning : hexQuad h₁ h₂ h₃ h₄ = some n)
    (not_low : isLowSurrogate n = false) (not_high : isHighSurrogate n = false) (s : Bytes) :
    scanContent (byte '\\' :: byte 'u' :: h₁ :: h₂ :: h₃ :: h₄ :: s) =
      (scanContent s).map (prepend (String.utf8EncodeChar (Char.ofNat n))) := by
  have not_quote : byte '\\' ≠ byte '\x22' := by decide
  rw [scanContent.eq_def]
  simp only [not_quote, if_false, if_true, meaning, not_low, not_high, Bool.false_eq_true]
  cases scanContent s <;> rfl

private theorem hexQuad_control : ∀ n < 0x20,
    hexQuad (byte '0') (byte '0') (byte (hexDigit (n / 16))) (byte (hexDigit (n % 16))) = some n := by
  decide

private theorem hexDigit_ascii : ∀ n < 0x20, (hexDigit (n / 16)).toNat < 0x80 ∧ (hexDigit (n % 16)).toNat < 0x80 := by
  decide

private theorem no_surrogate_control : ∀ n < 0x20, isLowSurrogate n = false ∧ isHighSurrogate n = false := by decide

/-- The written form of a character inside a string is read as its bytes. -/
theorem scanContent_escapedChar (c : Char) (s : Bytes) :
    scanContent (Utf8.encode (escapedChar c) ++ s) =
      (scanContent s).map (prepend (String.utf8EncodeChar c)) := by
  have recover {n : Nat} (is : c.toNat = n) : c = Char.ofNat n := by rw [← is, Char.ofNat_toNat]
  unfold escapedChar
  split
  · next special =>
    simp only [Bool.or_eq_true, decide_eq_true_eq] at special
    rcases special with rfl | rfl
    · exact scanContent_short (by decide) rfl s
    · exact scanContent_short (by decide) rfl s
  split
  · next backspace =>
    rw [recover backspace]
    exact scanContent_short (by decide) rfl s
  split
  · next feed =>
    rw [recover feed]
    exact scanContent_short (by decide) rfl s
  split
  · next line =>
    subst line
    exact scanContent_short (by decide) rfl s
  split
  · next carriage =>
    subst carriage
    exact scanContent_short (by decide) rfl s
  split
  · next tab =>
    subst tab
    exact scanContent_short (by decide) rfl s
  split
  · next control =>
    have ⟨upper, lower⟩ := hexDigit_ascii c.toNat control
    have ⟨not_low, not_high⟩ := no_surrogate_control c.toNat control
    rw [encode_ascii (by simp [upper, lower])]
    have reading := scanContent_unicode (hexQuad_control c.toNat control) not_low not_high s
    rw [Char.ofNat_toNat] at reading
    exact reading
  · next not_special _ _ _ _ _ not_control =>
    simp only [Bool.or_eq_true, decide_eq_true_eq, not_or] at not_special
    rw [encode_singleton]
    exact scanContent_plain (plain_bytes not_special.1 not_special.2 not_control) s

/-- The content of a written string is read back as its bytes. -/
theorem scanContent_escaped (cs : List Char) (rest : Bytes) :
    scanContent (Utf8.encode (cs.flatMap escapedChar) ++ byte '\x22' :: rest) =
      .ok (Utf8.encode cs, rest) := by
  induction cs with
  | nil =>
    rw [List.flatMap_nil, Utf8.encode_nil, List.nil_append, scanContent.eq_def]
    rfl
  | cons c cs ih =>
    rw [List.flatMap_cons, Utf8.encode_append, List.append_assoc, scanContent_escapedChar c, ih]
    rfl

/-- A written string is read back after its opening quote. -/
theorem scanString_escaped (cs : List Char) (rest : Bytes) :
    scanString (Utf8.encode (cs.flatMap escapedChar) ++ byte '\x22' :: rest) =
      .ok (String.ofList cs, rest) := by
  rw [scanString, scanContent_escaped]
  simp only [bind, Except.bind, Utf8.decode?_encode]
  rfl

private theorem digit_bounds {c : Char} (digit : c.isDigit = true) : 0x30 ≤ c.toNat ∧ c.toNat ≤ 0x39 := by
  simpa [Char.isDigit, UInt32.le_iff_toNat_le] using digit

theorem isDigit_byte {c : Char} (digit : c.isDigit = true) : isDigit (byte c) = true := by
  have bounds := digit_bounds digit
  have value := byte_toNat (c := c) (by omega)
  simp only [isDigit, Bool.and_eq_true, decide_eq_true_eq, UInt8.le_iff_toNat_le, value]
  exact bounds

private theorem digitValue_byte {c : Char} (ascii : c.toNat < 0x100) : digitValue (byte c) = c.toNat - 0x30 := by
  rw [digitValue, byte_toNat ascii]

theorem decimal_isDigit {n : Nat} {c : Char} (member : c ∈ decimal n) : c.isDigit = true :=
  Nat.isDigit_of_mem_toDigits (by decide) (by decide) member

theorem ascii_of_isDigit {c : Char} (digit : c.isDigit = true) : c.toNat < 0x80 := by
  have bounds := digit_bounds digit
  omega

private theorem decimal_head {n : Nat} (positive : 0 < n) : (decimal n).head? ≠ some '0' := by
  induction n using Nat.strongRecOn with
  | ind n ih =>
    rw [decimal, Nat.toDigits_eq_if (by decide)]
    split
    · next small =>
      have nonzero : ∀ m < 10, 0 < m → [Nat.digitChar m].head? ≠ some '0' := by decide
      exact nonzero n small positive
    · next large =>
      have front := ih (n / 10) (by omega) (by omega)
      obtain ⟨d, ds, split⟩ := List.exists_cons_of_ne_nil (Nat.toDigits_ne_nil (b := 10) (n := n / 10))
      rw [decimal, split] at front
      rw [split]
      exact front

/-- A text at whose head digits stop. -/
def EndsDigits (rest : Bytes) : Prop := ∀ b ∈ rest.head?, isDigit b = false

/-- A text at whose head a number stops. -/
def EndsNumber (rest : Bytes) : Prop :=
  ∀ b ∈ rest.head?, isDigit b = false ∧ b ≠ byte '.' ∧ b ≠ byte 'e' ∧ b ≠ byte 'E'

theorem EndsNumber.endsDigits {rest : Bytes} (ends : EndsNumber rest) : EndsDigits rest :=
  fun b head => (ends b head).1

/-- Digits at the head of a text are told apart from what follows them. -/
theorem span_digits {ds : List Char} (all_digits : ∀ c ∈ ds, c.isDigit = true) {rest : Bytes}
    (ends : EndsDigits rest) :
    (Utf8.encode ds ++ rest).takeWhile isDigit = ds.map byte ∧
      (Utf8.encode ds ++ rest).dropWhile isDigit = rest := by
  rw [encode_ascii fun c member => ascii_of_isDigit (all_digits c member)]
  have digits : ∀ b ∈ ds.map byte, isDigit b = true := by
    intro b member
    obtain ⟨c, in_digits, rfl⟩ := List.mem_map.1 member
    exact isDigit_byte (all_digits c in_digits)
  have no_more : rest.takeWhile isDigit = [] ∧ rest.dropWhile isDigit = rest := by
    cases rest with
    | nil => simp
    | cons b after => simp [ends b rfl]
  constructor
  · rw [List.takeWhile_append_of_pos digits, no_more.1, List.append_nil]
  · rw [List.dropWhile_append_of_pos digits, no_more.2]

private theorem next_significand (significand : Nat) {d : Char} (digit : d.isDigit = true) :
    significand * 10 + digitValue (byte d) = 10 * significand + (d.toNat - '0'.toNat) := by
  have ascii := ascii_of_isDigit digit
  rw [digitValue_byte (by omega), Nat.mul_comm]
  rfl

theorem gather_le (significand taken : Nat) (ds : Bytes) : (gather significand taken ds).2 ≤ taken + ds.length := by
  induction ds generalizing significand taken with
  | nil => exact Nat.le_refl _
  | cons d ds ih =>
    rw [gather]
    simp only [List.length_cons]
    split
    · have later := ih (significand * 10 + digitValue d) (taken + 1)
      omega
    · omega

/-- Digits that are all taken give the number that they denote. -/
theorem gather_all {ds : List Char} (digits : ∀ c ∈ ds, c.isDigit = true) (significand taken : Nat)
    (all : (gather significand taken (ds.map byte)).2 = taken + ds.length) :
    (gather significand taken (ds.map byte)).1 = Nat.ofDigitChars 10 ds significand := by
  induction ds generalizing significand taken with
  | nil => rfl
  | cons d ds ih =>
    rw [List.map_cons, gather] at all ⊢
    simp only [next_significand significand (digits d (.head _)), List.length_cons] at all ⊢
    split at all
    · next grows =>
      rw [if_pos grows, Nat.ofDigitChars_cons]
      exact ih (fun c later => digits c (.tail _ later)) _ _ (by omega)
    · omega

private theorem gather_digits {ds : List Char} (significand taken : Nat) (digits : ∀ c ∈ ds, c.isDigit = true)
    (fits : Nat.ofDigitChars 10 ds significand < UInt64.size) :
    gather significand taken (ds.map byte) = (Nat.ofDigitChars 10 ds significand, taken + ds.length) := by
  induction ds generalizing significand taken with
  | nil => rfl
  | cons d ds ih =>
    rw [Nat.ofDigitChars_cons] at fits
    have grows : 10 * significand + (d.toNat - '0'.toNat) < UInt64.size := by
      rw [Nat.ofDigitChars_eq_ofDigitChars_zero] at fits
      have power : 0 < Nat.pow 10 ds.length := Nat.pow_pos (by decide)
      have at_least := Nat.le_mul_of_pos_left (10 * significand + (d.toNat - '0'.toNat)) power
      exact Nat.lt_of_le_of_lt (Nat.le_trans at_least (Nat.le_add_right _ _)) fits
    rw [List.map_cons, gather]
    simp only [next_significand significand (digits d (.head _)), grows, if_true]
    rw [ih _ _ (fun c later => digits c (.tail _ later)) fits, Nat.ofDigitChars_cons]
    simp only [List.length_cons]
    congr 1
    omega

theorem no_leading_zero {n : Nat} {d : Char} {ds : List Char} (split : decimal n = d :: ds) {rest : Bytes}
    (ends : EndsDigits rest) :
    (byte d = byte '0' && ((ds.map byte ++ rest).head?.any isDigit)) = false := by
  rw [Bool.and_eq_false_iff]
  by_cases zero : n = 0
  · subst zero
    have alone : ds = [] := by
      rw [decimal, Nat.toDigits_zero] at split
      exact (List.cons.inj split).2.symm
    refine .inr ?_
    subst alone
    cases rest with
    | nil => rfl
    | cons b after => simp [ends b rfl]
  · refine .inl ?_
    have head := decimal_head (Nat.pos_of_ne_zero zero)
    have digit : d.isDigit = true := decimal_isDigit (n := n) (by rw [split]; exact .head _)
    rw [split] at head
    have other : d ≠ '0' := fun same => head (by rw [same]; rfl)
    have ascii := ascii_of_isDigit digit
    simp only [decide_eq_false_iff_not]
    exact byte_ne (by omega) (by decide) other

theorem decimal_cons (n : Nat) : ∃ d ds, decimal n = d :: ds ∧ isDigit (byte d) = true := by
  obtain ⟨d, ds, split⟩ := List.exists_cons_of_ne_nil (Nat.toDigits_ne_nil (b := 10) (n := n))
  rw [← decimal] at split
  exact ⟨d, ds, split, isDigit_byte (decimal_isDigit (n := n) (by rw [split]; exact .head _))⟩

/-- A number after its first digits, of which a significand was taken and others dropped: the next byte tells
how it goes on. -/
def scanAfterDigits (negative : Bool) (significand dropped : Nat) (rest : Bytes) :
    Except Fault (Numeral × Bytes) :=
  match rest with
  | c :: after =>
    if c = byte '.' then scanDecimals negative significand dropped after
    else if c = byte 'e' || c = byte 'E' then scanExponent negative significand dropped after
    else scanNumber.plain negative significand dropped rest
  | [] => scanNumber.plain negative significand dropped rest

theorem scanNumber_decimal_append (negative : Bool) (n : Nat) {rest : Bytes} (ends : EndsDigits rest)
    {significand taken : Nat} (gathered : gather 0 0 ((decimal n).map byte) = (significand, taken)) :
    scanNumber negative (Utf8.encode (decimal n) ++ rest) =
      scanAfterDigits negative significand ((decimal n).length - taken) rest := by
  have all_digits : ∀ c ∈ decimal n, c.isDigit = true := fun c => decimal_isDigit
  have ⟨taken_digits, left⟩ := span_digits all_digits ends
  rw [encode_ascii fun c member => ascii_of_isDigit (all_digits c member)] at taken_digits left ⊢
  obtain ⟨d, ds, split, first⟩ := decimal_cons n
  have leading := no_leading_zero split ends
  rw [split, List.map_cons] at gathered
  rw [split, List.map_cons, List.cons_append] at taken_digits left ⊢
  simp only [scanNumber, first, leading, taken_digits, left, gathered, not_true_eq_false, if_false,
    Bool.false_eq_true, List.length_cons, List.length_map]
  rfl

/-- Where a number stops, its first digits are all of it. -/
theorem scanAfterDigits_ends {rest : Bytes} (ends : EndsNumber rest) (negative : Bool) (significand dropped : Nat) :
    scanAfterDigits negative significand dropped rest = scanNumber.plain negative significand dropped rest := by
  cases rest with
  | nil => rfl
  | cons b after =>
    obtain ⟨-, not_point, not_e, not_E⟩ := ends b rfl
    simp only [scanAfterDigits, not_point, not_e, not_E, if_false, decide_false, Bool.or_self, Bool.false_eq_true]

/-- A written number below `2 ^ 64` is read back as an integer. -/
theorem scanNumber_decimal {n : Nat} (fits : n < UInt64.size) {rest : Bytes} (ends : EndsNumber rest) :
    scanNumber false (Utf8.encode (decimal n) ++ rest) = .ok (.integer n, rest) := by
  have whole := gather_digits 0 0 (fun c => decimal_isDigit (n := n))
    (by rw [decimal, Nat.ofDigitChars_ten_toDigits]; exact fits)
  rw [show Nat.ofDigitChars 10 (decimal n) 0 = n from Nat.ofDigitChars_ten_toDigits, Nat.zero_add] at whole
  rw [scanNumber_decimal_append false n ends.endsDigits whole, Nat.sub_self, scanAfterDigits_ends ends]
  rfl

end ClusterRegister.Json
