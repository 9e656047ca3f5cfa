import ClusterRegister.Proofs.JsonGrammar
import ClusterRegister.Proofs.Outcomes

/-!
# What JSON values stand for

The text of a string, and the port, the role and the instant that a value stands for, if it stands for one.
Readings find exactly these, up to what follows the value, and a fault where there is none.
-/

namespace ClusterRegister.Json

open ClusterRegister.Number ClusterRegister.Text

def isSurrogate (n : Nat) : Bool := isHighSurrogate n || isLowSurrogate n

/-- The characters that a string stands for, if all its surrogates are paired. -/
def Literal.content? : Literal → Option (List Char)
  | [] => some []
  | .plain c _ :: ps => (content? ps).map (c :: ·)
  | .short e :: ps => (content? ps).map (e.meaning :: ·)
  | .unit u :: ps =>
    if isSurrogate u.value then
      match ps with
      | .unit v :: ps =>
        if isHighSurrogate u.value && isLowSurrogate v.value then
          (content? ps).map (surrogatePair u.value v.value :: ·)
        else none
      | _ => none
    else (content? ps).map (Char.ofNat u.value :: ·)

/-- The text that a string stands for, if it stands for one. -/
def Literal.string? (ps : Literal) : Option String := ps.content?.map String.ofList

section Strings

variable {u v : CodeUnit} {ps : Literal} {rest : Bytes}

private theorem encode_unit_body (u : CodeUnit) (ps : Literal) (rest : Bytes) :
    Utf8.encode (Literal.body (.unit u :: ps)) ++ rest =
      byte '\\' :: byte 'u' :: byte u.first.char :: byte u.second.char :: byte u.third.char ::
        byte u.fourth.char :: (Utf8.encode ps.body ++ rest) := by
  rw [encode_body, ← encode_unit]
  rfl

private theorem not_low_of_high {n : Nat} (high : isHighSurrogate n = true) : isLowSurrogate n = false := by
  simp only [isHighSurrogate, Bool.and_eq_true, decide_eq_true_eq] at high
  simp only [isLowSurrogate, Bool.and_eq_false_iff, decide_eq_false_iff_not]
  omega

private theorem scanContent_low (low : isLowSurrogate u.value = true) :
    (scanContent (Utf8.encode (Literal.body (.unit u :: ps)) ++ rest)).toOption = none := by
  have not_quote : byte '\\' ≠ byte '\x22' := by decide
  rw [encode_unit_body, scanContent.eq_def]
  simp only [not_quote, if_false, if_true, hexQuad_unit, low]
  rfl

private theorem scanContent_pair (high : isHighSurrogate u.value = true) (low : isLowSurrogate v.value = true) :
    scanContent (Utf8.encode (Literal.body (.unit u :: .unit v :: ps)) ++ rest) =
      (scanContent (Utf8.encode ps.body ++ rest)).map
        (prepend (String.utf8EncodeChar (surrogatePair u.value v.value))) := by
  have not_quote : byte '\\' ≠ byte '\x22' := by decide
  rw [encode_unit_body, encode_unit_body, scanContent.eq_def]
  simp only [not_quote, if_false, if_true, hexQuad_unit, not_low_of_high high, high, low, Bool.false_eq_true]
  cases scanContent (Utf8.encode ps.body ++ rest) <;> rfl

/-- The first half of a pair of surrogates is a fault, unless the other half follows it. -/
theorem scanContent_high (high : isHighSurrogate u.value = true)
    (alone : ∀ v more, ps = .unit v :: more → isLowSurrogate v.value = false) :
    (scanContent (Utf8.encode (Literal.body (.unit u :: ps)) ++ rest)).toOption = none := by
  have not_quote : byte '\\' ≠ byte '\x22' := by decide
  have not_low := not_low_of_high high
  rw [encode_unit_body, scanContent.eq_def]
  simp only [not_quote, if_false, if_true, hexQuad_unit, not_low, high, Bool.false_eq_true]
  cases ps with
  | nil => rfl
  | cons p more =>
    cases p with
    | plain c unescaped =>
      have plain := plain_bytes unescaped.1 unescaped.2.1 unescaped.2.2
      rw [encode_body, Piece.text, encode_singleton]
      cases bytes : String.utf8EncodeChar c with
      | nil => exact absurd bytes String.utf8EncodeChar_ne_nil
      | cons b bs =>
        rw [bytes] at plain
        simp only [List.cons_append, (plain b (.head _)).2.1, if_false]
        rfl
    | short e => cases e <;> rfl
    | unit v =>
      have lone := alone v more rfl
      simp only [encode_unit_body, if_true, hexQuad_unit, lone, Bool.false_eq_true, if_false]
      rfl

private theorem scanContent_unpaired (surrogate : isSurrogate u.value = true)
    (unpaired : ∀ v more, ps = .unit v :: more → ¬ (isHighSurrogate u.value && isLowSurrogate v.value) = true) :
    (scanContent (Utf8.encode (Literal.body (.unit u :: ps)) ++ rest)).toOption = none := by
  cases high : isHighSurrogate u.value with
  | true =>
    refine scanContent_high high fun v more follows => ?_
    have not_pair := unpaired v more follows
    rwa [high, Bool.true_and, Bool.not_eq_true] at not_pair
  | false =>
    rw [isSurrogate, high, Bool.false_or] at surrogate
    exact scanContent_low surrogate

private theorem toOption_prepend {s : Bytes} {content : Option (List Char)}
    (later : (scanContent s).toOption = content.map fun cs => (Utf8.encode cs, rest)) (c : Char) :
    ((scanContent s).map (prepend (String.utf8EncodeChar c))).toOption =
      (content.map (c :: ·)).map fun cs => (Utf8.encode cs, rest) := by
  rw [toOption_map, later]
  cases content <;> rfl

private theorem scanContent_short_body (e : Escape) (ps : Literal) (rest : Bytes) :
    scanContent (Utf8.encode (Literal.body (.short e :: ps)) ++ rest) =
      (scanContent (Utf8.encode ps.body ++ rest)).map (prepend (String.utf8EncodeChar e.meaning)) := by
  rw [encode_body]
  cases e <;> exact scanContent_short (by decide) rfl _

/-- Between its quotes, a string is read as the bytes of what it stands for. -/
theorem scanContent_body (ps : Literal) (rest : Bytes) :
    (scanContent (Utf8.encode ps.body ++ rest)).toOption = ps.content?.map fun cs => (Utf8.encode cs, rest) := by
  fun_induction Literal.content? ps with
  | case1 =>
    rw [Literal.body, scanContent.eq_def]
    rfl
  | case2 c unescaped ps ih =>
    have plain := plain_bytes unescaped.1 unescaped.2.1 unescaped.2.2
    rw [encode_body, Piece.text, encode_singleton, scanContent_plain plain, toOption_prepend ih]
  | case3 e ps ih => rw [scanContent_short_body, toOption_prepend ih]
  | case4 u surrogate v ps pair ih =>
    rw [Bool.and_eq_true] at pair
    rw [scanContent_pair pair.1 pair.2, toOption_prepend ih]
  | case5 u surrogate v ps not_pair =>
    refine scanContent_unpaired surrogate fun w more follows => ?_
    cases follows
    exact not_pair
  | case6 u ps surrogate no_unit =>
    exact scanContent_unpaired surrogate fun v more follows => absurd follows (no_unit v more)
  | case7 u ps ordinary ih =>
    rw [isSurrogate, Bool.or_eq_true, not_or, Bool.not_eq_true, Bool.not_eq_true] at ordinary
    rw [encode_unit_body, scanContent_unicode (hexQuad_unit u) ordinary.2 ordinary.1, toOption_prepend ih]

theorem scanString_body (ps : Literal) (rest : Bytes) :
    (scanString (Utf8.encode ps.body ++ rest)).toOption = ps.string?.map fun text => (text, rest) := by
  rw [scanString, toOption_bind, scanContent_body, Literal.string?]
  cases ps.content? with
  | none => rfl
  | some cs =>
    simp only [Option.map_some, Option.bind_some, Utf8.decode?_encode]
    rfl

end Strings

section Numbers

variable {rest : Bytes}

/-- A reading that does not end with an integer. -/
def NoInteger (read : Except Fault (Numeral × Bytes)) : Prop := ∀ n rest, read ≠ .ok (.integer n, rest)

private theorem noInteger_error (fault : Fault) : NoInteger (.error fault) := by
  intro n rest same
  cases same

private theorem noInteger_rounded (negative : Bool) (significand : Nat) (exponent : Int) (rest : Bytes) :
    NoInteger (roundedNumeral negative significand exponent rest) := by
  intro n more same
  rw [roundedNumeral] at same
  split at same <;> cases same

private theorem noInteger_exponent (negative : Bool) (significand : Nat) (scale : Int) (s : Bytes) :
    NoInteger (scanExponent negative significand scale s) := by
  rw [scanExponent.eq_def]
  split
  split
  · exact noInteger_error _
  split
  · split
    · exact noInteger_rounded _ _ _ _
    · split
      · exact noInteger_error _
      · intro n more same
        cases same
  · exact noInteger_error _

private theorem noInteger_scale (negative : Bool) (significand : Nat) (scale : Int) (s : Bytes) :
    NoInteger (scanScale negative significand scale s) := by
  rw [scanScale.eq_def]
  split
  · split
    · exact noInteger_exponent _ _ _ _
    · exact noInteger_rounded _ _ _ _
  · exact noInteger_rounded _ _ _ _

private theorem noInteger_decimals (negative : Bool) (significand : Nat) (scale : Int) (s : Bytes) :
    NoInteger (scanDecimals negative significand scale s) := by
  rw [scanDecimals]
  split
  · exact noInteger_error _
  · exact noInteger_scale _ _ _ _

/-- A number with a point or an exponent is no integer. -/
theorem noInteger_scaled {n : NumberText} (scaled : n.fraction.isSome ∨ n.exponent.isSome) (negative : Bool)
    (significand dropped : Nat) :
    NoInteger (scanAfterDigits negative significand dropped (Utf8.encode n.scale ++ rest)) := by
  rw [NumberText.scale, Utf8.encode_append, List.append_assoc]
  cases fraction : n.fraction with
  | some ds => exact noInteger_decimals negative significand dropped _
  | none =>
    cases exponent : n.exponent with
    | none =>
      rw [fraction, exponent] at scaled
      simp at scaled
    | some x =>
      have not_point : byte 'e' ≠ byte '.' ∧ byte 'E' ≠ byte '.' := by decide
      rw [Option.elim_none, Option.elim_some, Utf8.encode_nil, List.nil_append, encode_exponent]
      rcases x.byte_letter with letter | letter <;> rw [letter] <;>
        simp only [scanAfterDigits, not_point.1, not_point.2, if_false, decide_true, Bool.true_or, Bool.or_true,
          if_true] <;>
        exact noInteger_exponent _ _ _ _

/-- Digits alone are an integer, or they denote more than 64 bits can hold. -/
theorem scanNumber_whole (n : Nat) (ends : EndsNumber rest) :
    scanNumber false (Utf8.encode (decimal n) ++ rest) = .ok (.integer n, rest) ∨
      UInt64.size ≤ n ∧ NoInteger (scanNumber false (Utf8.encode (decimal n) ++ rest)) := by
  by_cases fits : n < UInt64.size
  · exact .inl (scanNumber_decimal fits ends)
  · have digits : ∀ c ∈ decimal n, c.isDigit = true := fun c => decimal_isDigit
    have most := gather_le 0 0 ((decimal n).map byte)
    have whole := gather_all digits 0 0
    rw [Nat.zero_add] at whole
    rw [Nat.zero_add, List.length_map] at most
    rw [scanNumber_decimal_append false n ends.endsDigits (Prod.eta _).symm, scanAfterDigits_ends ends,
      scanNumber.plain]
    by_cases all : (gather 0 0 ((decimal n).map byte)).2 = (decimal n).length
    · have value : (gather 0 0 ((decimal n).map byte)).1 = n := by
        rw [whole all, decimal, Nat.ofDigitChars_ten_toDigits]
      rw [all, Nat.sub_self, value]
      exact .inl rfl
    · refine .inr ⟨by omega, ?_⟩
      rw [if_pos (by omega)]
      exact noInteger_rounded _ _ _ _

private theorem negative_of_plain {significand dropped : Nat} {z : Int} {more : Bytes}
    (read : scanNumber.plain true significand dropped rest = .ok (.integer z, more)) : z < 0 := by
  rw [scanNumber.plain] at read
  split at read
  · exact absurd read (noInteger_rounded _ _ _ _ _ _)
  · rw [if_pos rfl] at read
    split at read
    · next some_digit =>
      cases read
      simp only [Bool.and_eq_true, decide_eq_true_eq] at some_digit
      omega
    · exact absurd read (noInteger_rounded _ _ _ _ _ _)

private theorem negative_of_scanNumber {n : NumberText} (ends : EndsNumber rest) {z : Int} {more : Bytes}
    (read : scanNumber true (Utf8.encode n.unsigned ++ rest) = .ok (.integer z, more)) : z < 0 := by
  rw [NumberText.unsigned, Utf8.encode_append, List.append_assoc,
    scanNumber_decimal_append true n.whole (endsDigits_scale n ends) (Prod.eta _).symm] at read
  by_cases scaled : n.fraction.isSome ∨ n.exponent.isSome
  · exact absurd read (noInteger_scaled scaled _ _ _ _ _)
  · have none : n.scale = [] := by
      simp only [not_or, Bool.not_eq_true, Option.isSome_eq_false_iff, Option.isNone_iff_eq_none] at scaled
      rw [NumberText.scale, scaled.1, scaled.2]
      rfl
    rw [none, Utf8.encode_nil, List.nil_append, scanAfterDigits_ends ends] at read
    exact negative_of_plain read

end Numbers

section Values

open ClusterRegister.Calendar

/-- The text of a string. -/
def Value.string? : Value → Option String
  | .string ps => ps.string?
  | _ => none

/-- The number of digits alone that denote at most 65535. -/
def Value.port? : Value → Option UInt16
  | .number ⟨false, n, none, none⟩ => if n < 65536 then some (UInt16.ofNat n) else none
  | _ => none

/-- The role of its name, or of an object whose one key is its name and whose value is null. -/
def Value.role? : Value → Option Role
  | .string ps => ps.string?.bind Role.ofName?
  | .object _ (.more _ key _ _ .null _ .none) => key.string?.bind Role.ofName?
  | _ => none

/-- The instant of a string that is a timestamp. -/
def Value.instant? (v : Value) : Option Instant :=
  v.string?.bind fun text => (Instant.ofText text.toList).toOption

/-- What the first byte of a value tells about it. -/
structure Value.Begins (v : Value) (b : UInt8) : Prop where
  null : b = byte 'n' → v = .null
  number : b = byte '-' ∨ isDigit b = true → ∃ n, v = .number n
  string : b = byte '\x22' → ∃ ps, v = .string ps
  object : b = byte '\x7b' → ∃ inside ms, v = .object inside ms

theorem Value.begins (v : Value) (rest : Bytes) : ∃ b more, Utf8.encode v.text ++ rest = b :: more ∧ v.Begins b := by
  cases v with
  | null =>
    refine ⟨_, _, rfl, fun _ => rfl, ?_, ?_, ?_⟩ <;> exact fun same => absurd same (by decide)
  | boolean value =>
    cases value <;> refine ⟨_, _, rfl, ?_, ?_, ?_, ?_⟩ <;> exact fun same => absurd same (by decide)
  | number n =>
    cases sign : n.negative with
    | true =>
      refine ⟨_, _, encode_negative sign rest, ?_, fun _ => ⟨n, rfl⟩, ?_, ?_⟩ <;>
        exact fun same => absurd same (by decide)
    | false =>
      obtain ⟨d, more, split, -, digit⟩ := encode_positive sign rest
      refine ⟨d, more, split, ?_, fun _ => ⟨n, rfl⟩, ?_, ?_⟩ <;>
        exact fun same => absurd same (ne_of_isDigit digit rfl)
  | string ps =>
    refine ⟨_, _, encode_literal ps rest, ?_, ?_, fun _ => ⟨ps, rfl⟩, ?_⟩ <;>
      exact fun same => absurd same (by decide)
  | list inside es =>
    refine ⟨_, _, encode_list inside es rest, ?_, ?_, ?_, ?_⟩ <;> exact fun same => absurd same (by decide)
  | object inside ms =>
    refine ⟨_, _, encode_object inside ms rest, ?_, ?_, ?_, fun _ => ⟨inside, ms, rfl⟩⟩ <;>
      exact fun same => absurd same (by decide)

end Values

end ClusterRegister.Json

namespace ClusterRegister.Record

open ClusterRegister.Json ClusterRegister.Calendar

section Readings

variable (before : Space) (v : Value) (rest : Bytes)

theorem readString_value (expected : String) :
    (readString expected (Utf8.encode before.text ++ (Utf8.encode v.text ++ rest))).toOption =
      v.string?.map fun text => (text, rest) := by
  rw [readString, skipSpace_value]
  by_cases string : ∃ ps, v = .string ps
  · obtain ⟨ps, rfl⟩ := string
    exact scanString_body ps rest
  · obtain ⟨b, more, split, begins⟩ := v.begins rest
    have none : v.string? = none := by
      cases v with
      | string ps => exact absurd ⟨ps, rfl⟩ string
      | _ => rfl
    have not_quote : b ≠ byte '\x22' := fun same => string (begins.string same)
    simp only [split, not_quote, if_false, none]
    rfl

theorem readInstant_value :
    (readInstant (Utf8.encode before.text ++ (Utf8.encode v.text ++ rest))).toOption =
      v.instant?.map fun t => (t, rest) := by
  rw [readInstant, toOption_bind, readString_value, Value.instant?]
  cases v.string? with
  | none => rfl
  | some text =>
    simp only [Option.map_some, Option.bind_some]
    cases Instant.ofText text.toList <;> rfl

private theorem readRoleName_body (ps : Literal) :
    (readRoleName (Utf8.encode ps.body ++ rest)).toOption =
      (ps.string?.bind Role.ofName?).map fun role => (role, rest) := by
  rw [readRoleName, toOption_bind, scanString_body]
  cases ps.string? with
  | none => rfl
  | some name =>
    simp only [Option.map_some, Option.bind_some]
    cases Role.ofName? name <;> rfl

theorem readColon_text (s : Bytes) : readColon (Utf8.encode before.text ++ byte ':' :: s) = .ok s := by
  have colon : skipSpace (byte ':' :: s) = byte ':' :: s := rfl
  simp only [readColon, skipSpace_text, colon, if_true]

private theorem readNull_null :
    readNull (Utf8.encode before.text ++ (Utf8.encode Value.null.text ++ rest)) = .ok rest := by
  rw [readNull, skipSpace_value]
  rfl

private theorem readNull_other (other : v ≠ .null) :
    (readNull (Utf8.encode before.text ++ (Utf8.encode v.text ++ rest))).toOption = none := by
  obtain ⟨b, more, split, begins⟩ := v.begins rest
  have not_letter : b ≠ byte 'n' := fun same => other (begins.null same)
  rw [readNull, skipSpace_value]
  simp only [split, not_letter, if_false]
  rfl

/-- A role in an object: only its name as the one key, with null under it, is read. -/
theorem readRole_object (inside : Space) (ms : Members) :
    (readRole (Utf8.encode before.text ++ (Utf8.encode (Value.object inside ms).text ++ rest))).toOption =
      (Value.object inside ms).role?.map fun role => (role, rest) := by
  have not_quote : byte '\x7b' ≠ byte '\x22' := by decide
  rw [readRole, skipSpace_value, encode_object]
  simp only [not_quote, if_false, if_true, skipSpace_text]
  cases ms with
  | none => rfl
  | more before key afterKey beforeValue v after ms =>
    have opening (s : Bytes) : skipSpace (byte '\x22' :: s) = byte '\x22' :: s := rfl
    simp only [encode_members, skipSpace_text, opening, if_true, toOption_bind, readRoleName_body]
    cases named : key.string?.bind Role.ofName? with
    | none =>
      have no_role : (Value.object inside (.more before key afterKey beforeValue v after ms)).role? = none := by
        cases v <;> cases ms <;> first | exact named | rfl
      rw [no_role]
      rfl
    | some role =>
      simp only [Option.map_some, Option.bind_some, readColon_text, toOption_ok]
      by_cases null : v = .null
      · subst null
        simp only [readNull_null, toOption_ok, Option.bind_some, skipSpace_text]
        cases ms with
        | none =>
          rw [show (Value.object inside (.more before key afterKey beforeValue .null after .none)).role? =
            some role from named]
          rfl
        | more before' key' afterKey' beforeValue' v' after' ms =>
          rw [encode_comma_members]
          rfl
      · have no_role : (Value.object inside (.more before key afterKey beforeValue v after ms)).role? = none := by
          cases v with
          | null => exact absurd rfl null
          | _ => rfl
        rw [readNull_other _ _ _ null, no_role]
        rfl

theorem readRole_value :
    (readRole (Utf8.encode before.text ++ (Utf8.encode v.text ++ rest))).toOption =
      v.role?.map fun role => (role, rest) := by
  by_cases string : ∃ ps, v = .string ps
  · obtain ⟨ps, rfl⟩ := string
    rw [readRole, skipSpace_value]
    exact readRoleName_body rest ps
  by_cases object : ∃ inside ms, v = .object inside ms
  · obtain ⟨inside, ms, rfl⟩ := object
    exact readRole_object before rest inside ms
  · obtain ⟨b, more, split, begins⟩ := v.begins rest
    have none : v.role? = none := by
      cases v with
      | string ps => exact absurd ⟨ps, rfl⟩ string
      | object inside ms => exact absurd ⟨inside, ms, rfl⟩ object
      | _ => rfl
    have not_quote : b ≠ byte '\x22' := fun same => string (begins.string same)
    have not_brace : b ≠ byte '\x7b' := fun same => object (begins.object same)
    rw [readRole, skipSpace_value]
    simp only [split, not_quote, not_brace, if_false, none]
    rfl

private theorem number_integer {negative : Bool} {s more : Bytes} {z : Int}
    (scanned : scanNumber negative s = .ok (.integer z, more)) :
    (readPort.number negative s).toOption =
      if 0 ≤ z ∧ z < 65536 then some (UInt16.ofNat z.toNat, more) else none := by
  rw [readPort.number, scanned]
  by_cases inside : 0 ≤ z ∧ z < 65536
  · rw [if_pos inside]
    simp only [bind, Except.bind, if_pos inside]
    rfl
  · rw [if_neg inside]
    simp only [bind, Except.bind, if_neg inside]
    rfl

private theorem number_outside {negative : Bool} {s : Bytes}
    (outside : ∀ z more, scanNumber negative s = .ok (.integer z, more) → ¬ (0 ≤ z ∧ z < 65536)) :
    (readPort.number negative s).toOption = none := by
  cases scanned : scanNumber negative s with
  | error fault =>
    rw [readPort.number, scanned]
    rfl
  | ok read =>
    obtain ⟨numeral, more⟩ := read
    cases numeral with
    | float negative x =>
      rw [readPort.number, scanned]
      rfl
    | integer z => rw [number_integer scanned, if_neg (outside z more scanned)]

private theorem number_whole (n : Nat) (ends : EndsNumber rest) :
    (readPort.number false (Utf8.encode (Text.decimal n) ++ rest)).toOption =
      (Value.number ⟨false, n, none, none⟩).port?.map fun port => (port, rest) := by
  rw [Value.port?]
  rcases scanNumber_whole n ends with integer | ⟨large, no_integer⟩
  · rw [number_integer integer]
    by_cases small : n < 65536
    · rw [if_pos small, if_pos (by omega), Int.toNat_natCast, Option.map_some]
    · rw [if_neg small, if_neg (by omega), Option.map_none]
  · have beyond : ¬ n < 65536 := fun small => absurd (Nat.lt_of_lt_of_le small (by decide)) (Nat.not_lt.2 large)
    rw [if_neg beyond, number_outside fun z more scanned => absurd scanned (no_integer z more), Option.map_none]

/-- Only digits that denote at most 65535 are read as a port. -/
theorem number_unsigned (n : NumberText) (ends : EndsNumber rest) :
    (readPort.number n.negative (Utf8.encode n.unsigned ++ rest)).toOption =
      (Value.number n).port?.map fun port => (port, rest) := by
  cases sign : n.negative with
  | true =>
    have none : (Value.number n).port? = none := by
      obtain ⟨negative, whole, fraction, exponent⟩ := n
      cases sign
      rfl
    rw [none]
    refine number_outside fun z more scanned inside => ?_
    have below := negative_of_scanNumber ends scanned
    omega
  | false =>
    rw [NumberText.unsigned, Utf8.encode_append, List.append_assoc]
    by_cases scaled : n.fraction.isSome ∨ n.exponent.isSome
    · have none : (Value.number n).port? = none := by
        obtain ⟨negative, whole, fraction, exponent⟩ := n
        cases sign
        cases fraction <;> cases exponent <;> first | rfl | simp at scaled
      rw [none]
      refine number_outside fun z more scanned => ?_
      rw [scanNumber_decimal_append false n.whole (endsDigits_scale n ends) (Prod.eta _).symm] at scanned
      exact absurd scanned (noInteger_scaled scaled _ _ _ _ _)
    · simp only [not_or, Bool.not_eq_true, Option.isSome_eq_false_iff, Option.isNone_iff_eq_none] at scaled
      obtain ⟨negative, whole, fraction, exponent⟩ := n
      obtain ⟨rfl, rfl⟩ := scaled
      cases sign
      exact number_whole rest whole ends

private theorem readPort_number (ends : EndsNumber rest) (n : NumberText) :
    (readPort (Utf8.encode before.text ++ (Utf8.encode (Value.number n).text ++ rest))).toOption =
      (Value.number n).port?.map fun port => (port, rest) := by
  rw [readPort, skipSpace_value, Value.text, ← number_unsigned rest n ends]
  cases sign : n.negative with
  | true =>
    rw [encode_negative sign]
    rfl
  | false =>
    obtain ⟨d, more, text, unsigned, digit⟩ := encode_positive sign rest
    have no_sign : d ≠ byte '-' := ne_of_isDigit digit rfl
    simp only [text, unsigned, no_sign, digit, if_false, if_true]

theorem readPort_value (ends : EndsNumber rest) :
    (readPort (Utf8.encode before.text ++ (Utf8.encode v.text ++ rest))).toOption =
      v.port?.map fun port => (port, rest) := by
  by_cases number : ∃ n, v = .number n
  · obtain ⟨n, rfl⟩ := number
    exact readPort_number before rest ends n
  · obtain ⟨b, more, split, begins⟩ := v.begins rest
    have none : v.port? = none := by
      cases v with
      | number n => exact absurd ⟨n, rfl⟩ number
      | _ => rfl
    have not_sign : b ≠ byte '-' := fun same => number (begins.number (.inl same))
    have not_digit : ¬ isDigit b = true := fun same => number (begins.number (.inr same))
    rw [readPort, skipSpace_value]
    simp only [split, not_sign, not_digit, if_false, none]
    rfl

end Readings

end ClusterRegister.Record
