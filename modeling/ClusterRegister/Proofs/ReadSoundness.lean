import ClusterRegister.Proofs.JsonMeaning
import ClusterRegister.Proofs.JsonSoundness

/-!
# Read text

Whatever is read as a value of some kind is the text of a value of the grammar (`Kind.value_of_read`): a string or a
number that is read could have been skipped, up to the same rest.
-/

namespace ClusterRegister.Json

open ClusterRegister.Text ClusterRegister.Utf8

variable {s rest : Bytes}

private theorem skipString_unit {a b c d : UInt8} {n : Nat} (value : hexQuad a b c d = some n) (s : Bytes) :
    skipString (byte '\\' :: byte 'u' :: a :: b :: c :: d :: s) = skipString s := by
  have not_quote : byte '\\' ≠ byte '\x22' := by decide
  rw [skipString.eq_def]
  simp only [not_quote, if_false, if_true, value]

private theorem skipString_short {e c : UInt8} (not_unicode : e ≠ byte 'u') (meaning : shortEscape e = some c)
    (s : Bytes) :
    skipString (byte '\\' :: e :: s) = skipString s := by
  have not_quote : byte '\\' ≠ byte '\x22' := by decide
  rw [skipString.eq_def]
  simp only [not_quote, not_unicode, if_false, if_true, meaning]

private theorem skipString_of_scanContent {content : Bytes} (scanned : scanContent s = .ok (content, rest)) :
    skipString s = .ok rest := by
  fun_induction scanContent s generalizing content with
  | case2 => cases scanned; exact skipString.eq_def _
  | case9 a b c d n high _ _ e f g h t m low _ _ ih =>
    obtain ⟨⟨more, left⟩, read, same⟩ := bind_eq_ok scanned
    obtain rfl : left = rest := (Prod.mk.inj (Except.ok.inj same)).2
    rw [skipString_unit high, skipString_unit low, ih read]
  | case14 a b c d t n value _ _ _ ih =>
    obtain ⟨⟨more, left⟩, read, same⟩ := bind_eq_ok scanned
    obtain rfl : left = rest := (Prod.mk.inj (Except.ok.inj same)).2
    rw [skipString_unit value, ih read]
  | case17 e t not_unicode c meaning _ ih =>
    obtain ⟨⟨more, left⟩, read, same⟩ := bind_eq_ok scanned
    obtain rfl : left = rest := (Prod.mk.inj (Except.ok.inj same)).2
    rw [skipString_short not_unicode meaning, ih read]
  | case19 b t not_quote not_backslash not_control ih =>
    obtain ⟨⟨more, left⟩, read, same⟩ := bind_eq_ok scanned
    obtain rfl : left = rest := (Prod.mk.inj (Except.ok.inj same)).2
    have plain : ∀ d ∈ [b], Plain d := fun d member => by
      rw [List.mem_singleton.1 member]
      exact ⟨not_quote, not_backslash, not_control⟩
    exact (skipString_plain plain t).trans (ih read)
  | _ => cases scanned

/-- A string that is read is one of the grammar, and its text is the one that is read. -/
theorem literal_of_scanString {name : String} (text : IsText s) (scanned : scanString s = .ok (name, rest)) :
    ∃ ps : Literal, s = Utf8.encode ps.body ++ rest ∧ ps.string? = some name := by
  have skipped : skipString s = .ok rest := by
    obtain ⟨⟨content, left⟩, read, decoded⟩ := bind_eq_ok scanned
    simp only at decoded
    split at decoded
    · cases decoded
      exact skipString_of_scanContent read
    · cases decoded
  obtain ⟨ps, split⟩ := literal_of_skipString text skipped
  have body := scanString_body ps rest
  rw [← split, scanned, toOption_ok] at body
  obtain ⟨other, named, same⟩ := Option.map_eq_some_iff.1 body.symm
  cases same
  exact ⟨ps, split, named⟩

private theorem rest_of_roundedNumeral {negative : Bool} {significand : Nat} {exponent : Int} {n : Numeral}
    (rounded : roundedNumeral negative significand exponent s = .ok (n, rest)) : rest = s := by
  rw [roundedNumeral] at rounded
  split at rounded
  · cases rounded
    rfl
  · cases rounded

/-- The rest of a number after the sign of its exponent. -/
def scanPower (negative : Bool) (significand : Nat) (scale : Int) (down : Bool) (s : Bytes) :
    Except Fault (Numeral × Bytes) :=
  match s with
  | [] => .error (faultAt .endInValue [])
  | b :: r =>
    if isDigit b then
      let rest := s.dropWhile isDigit
      match gatherExponent 0 (s.takeWhile isDigit) with
      | (some e, _) => roundedNumeral negative significand (if down then scale - e else scale + e) rest
      | (none, ds) =>
        if significand ≠ 0 && !down then .error ⟨.numberTooLarge, ds.length + rest.length⟩
        else .ok (.float negative .zero, rest)
    else .error (faultAt .badNumber r)

section Scanned

variable {negative : Bool} {significand : Nat} {n : Numeral}

private theorem skipDigits_of_scanPower {scale : Int} {down : Bool}
    (scanned : scanPower negative significand scale down s = .ok (n, rest)) : skipDigits s = .ok rest := by
  cases s with
  | nil => cases scanned
  | cons b r =>
    simp only [scanPower] at scanned
    split at scanned
    · next digit =>
      have kept : rest = r.dropWhile isDigit := by
        rw [← List.dropWhile_cons_of_pos digit]
        split at scanned
        · exact rest_of_roundedNumeral scanned
        · split at scanned
          · cases scanned
          · cases scanned
            rfl
      rw [skipDigits, if_pos digit, kept]
    · cases scanned

private theorem skipExponent_of_scanExponent {scale : Int}
    (scanned : scanExponent negative significand scale s = .ok (n, rest)) : skipExponent s = .ok rest := by
  cases s with
  | nil => cases scanned
  | cons b r =>
    by_cases plus : b = byte '+'
    · subst plus
      exact @skipDigits_of_scanPower r rest negative significand n scale false scanned
    by_cases minus : b = byte '-'
    · subst minus
      exact @skipDigits_of_scanPower r rest negative significand n scale true scanned
    · have scan : scanExponent negative significand scale (b :: r) =
          scanPower negative significand scale false (b :: r) := by
        simp only [scanExponent, plus, minus, if_false]
        rfl
      have skip : skipExponent (b :: r) = skipDigits (b :: r) := by
        simp only [skipExponent, plus, minus, decide_false, Bool.or_self, Bool.false_eq_true, if_false]
        rfl
      rw [scan] at scanned
      rw [skip, skipDigits_of_scanPower scanned]

private theorem skipScale_of_rounded {exponent : Int}
    (no_letter : ∀ b ∈ s.head?, ¬ (b = byte 'e' || b = byte 'E') = true)
    (rounded : roundedNumeral negative significand exponent s = .ok (n, rest)) : skipScale s = .ok rest := by
  rw [rest_of_roundedNumeral rounded]
  cases s with
  | nil => rfl
  | cons b r => exact if_neg (no_letter b rfl)

private theorem skipScale_of_scanScale {scale : Int}
    (scanned : scanScale negative significand scale s = .ok (n, rest)) :
    skipScale s = .ok rest := by
  cases s with
  | nil => exact skipScale_of_rounded (fun b head => absurd head (by simp)) scanned
  | cons b r =>
    rw [scanScale] at scanned
    split at scanned
    · next letter =>
      rw [skipScale, if_pos letter]
      exact skipExponent_of_scanExponent scanned
    · next no_letter => exact skipScale_of_rounded (fun c head => by cases head; exact no_letter) scanned

private theorem rest_of_plain {dropped : Nat}
    (scanned : scanNumber.plain negative significand dropped s = .ok (n, rest)) :
    rest = s := by
  rw [scanNumber.plain] at scanned
  split at scanned
  · exact rest_of_roundedNumeral scanned
  split at scanned
  · split at scanned
    · cases scanned
      rfl
    · exact rest_of_roundedNumeral scanned
  · cases scanned
    rfl

private theorem skipAfterDigits_of_scan {dropped : Nat}
    (scanned : scanAfterDigits negative significand dropped s = .ok (n, rest)) : skipAfterDigits s = .ok rest := by
  cases s with
  | nil =>
    rw [rest_of_plain scanned]
    rfl
  | cons c after =>
    rw [scanAfterDigits] at scanned
    split at scanned
    · next point =>
      subst point
      rw [scanDecimals] at scanned
      split at scanned
      · cases scanned
      · next some_digit =>
        have scaled := skipScale_of_scanScale scanned
        cases after with
        | nil => exact absurd rfl some_digit
        | cons d r =>
          have digit : isDigit d = true := by
            by_contra none
            exact some_digit (List.takeWhile_cons_of_neg none)
          simp only [skipAfterDigits, if_true, digit, scaled]
    · next no_point =>
      have scaled : skipAfterDigits (c :: after) = skipScale (c :: after) := if_neg no_point
      rw [scaled]
      split at scanned
      · next letter =>
        rw [skipScale, if_pos letter]
        exact skipExponent_of_scanExponent scanned
      · next no_letter => rw [rest_of_plain scanned, skipScale, if_neg no_letter]

/-- A number that is read is one of the grammar. -/
theorem number_of_scanNumber (scanned : scanNumber negative s = .ok (n, rest)) :
    ∃ t : NumberText, t.negative = negative ∧ s = Utf8.encode t.unsigned ++ rest := by
  refine number_of_skipNumber ?_ negative
  cases s with
  | nil => cases scanned
  | cons b r =>
    by_cases first : isDigit b = true
    · by_cases leading : (b = byte '0' && r.head?.any isDigit) = true
      · rw [scanNumber, if_neg (not_not.2 first), if_pos leading] at scanned
        cases scanned
      · have scan : ∃ significand dropped, scanAfterDigits negative significand dropped (r.dropWhile isDigit) =
            .ok (n, rest) := by
          simp only [scanNumber, first, leading, List.dropWhile_cons_of_pos first, not_true_eq_false, if_false,
            Bool.false_eq_true] at scanned
          exact ⟨_, _, scanned⟩
        obtain ⟨significand, dropped, scan⟩ := scan
        have skip : skipNumber (b :: r) = skipAfterDigits (r.dropWhile isDigit) := by
          simp only [skipNumber, first, leading, List.dropWhile_cons_of_pos first, not_true_eq_false, if_false,
            Bool.false_eq_true]
          rfl
        rw [skip, skipAfterDigits_of_scan scan]
    · rw [scanNumber, if_pos first] at scanned
      cases scanned

end Scanned

end ClusterRegister.Json

namespace ClusterRegister.Record

open ClusterRegister.Calendar ClusterRegister.Json ClusterRegister.Utf8

variable {s rest : Bytes}

private theorem string_of_readString {expected name : String} (text : IsText s)
    (read : readString expected s = .ok (name, rest)) :
    ∃ (before : Space) (ps : Literal), s = Utf8.encode before.text ++ (Utf8.encode (Value.string ps).text ++ rest) := by
  rw [readString] at read
  obtain ⟨before, b, r, rfl, opened⟩ := opening_of_ok read
  split at opened
  · next quote =>
    subst quote
    obtain ⟨ps, body, -⟩ := literal_of_scanString (isText_tail (by decide) (isText_append before.text text)) opened
    exact ⟨before, ps, by rw [Value.text, encode_literal, body]⟩
  · cases opened

private theorem unsigned_of_number {negative : Bool} {port : UInt16}
    (read : readPort.number negative s = .ok (port, rest)) :
    ∃ n : NumberText, n.negative = negative ∧ s = Utf8.encode n.unsigned ++ rest := by
  obtain ⟨⟨numeral, left⟩, scanned, small⟩ := bind_eq_ok read
  cases numeral with
  | float => cases small
  | integer z =>
    simp only at small
    split at small
    · cases small
      exact number_of_scanNumber scanned
    · cases small

private theorem number_of_readPort {port : UInt16} (read : readPort s = .ok (port, rest)) :
    ∃ (before : Space) (n : NumberText), s = Utf8.encode before.text ++ (Utf8.encode (Value.number n).text ++ rest) := by
  rw [readPort] at read
  obtain ⟨before, b, r, rfl, opened⟩ := opening_of_ok read
  split at opened
  · next sign =>
    obtain ⟨n, negative, unsigned⟩ := unsigned_of_number opened
    exact ⟨before, n, by rw [Value.text, encode_negative negative, unsigned, sign]⟩
  split at opened
  · obtain ⟨n, positive, unsigned⟩ := unsigned_of_number opened
    exact ⟨before, n, by rw [Value.text, NumberText.text, positive, unsigned]; rfl⟩
  · cases opened

theorem colon_of_readColon (read : readColon s = .ok rest) :
    ∃ w : Space, s = Utf8.encode w.text ++ byte ':' :: rest := by
  rw [readColon] at read
  obtain ⟨w, b, r, rfl, opened⟩ := opening_of_ok read
  split at opened
  · next colon =>
    cases opened
    exact ⟨w, by rw [colon]⟩
  · cases opened

private theorem null_of_readNull (read : readNull s = .ok rest) :
    ∃ w : Space, s = Utf8.encode w.text ++ (Utf8.encode Value.null.text ++ rest) := by
  rw [readNull] at read
  obtain ⟨w, b, r, rfl, opened⟩ := opening_of_ok read
  split at opened
  · next letter =>
    subst letter
    exact ⟨w, by rw [word_of_scanWord opened]; rfl⟩
  · cases opened

private theorem literal_of_readRoleName {role : Role} (text : IsText s) (read : readRoleName s = .ok (role, rest)) :
    ∃ ps : Literal, s = Utf8.encode ps.body ++ rest := by
  obtain ⟨⟨name, left⟩, scanned, known⟩ := bind_eq_ok read
  obtain ⟨ps, body, -⟩ := literal_of_scanString text scanned
  simp only at known
  split at known
  · cases known
    exact ⟨ps, body⟩
  · cases known

private theorem role_of_readRole {role : Role} (text : IsText s) (read : readRole s = .ok (role, rest)) :
    ∃ (before : Space) (v : Json.Value), s = Utf8.encode before.text ++ (Utf8.encode v.text ++ rest) := by
  rw [readRole] at read
  obtain ⟨before, b, r, rfl, opened⟩ := opening_of_ok read
  have later : IsText (b :: r) := isText_append before.text text
  split at opened
  · next quote =>
    subst quote
    obtain ⟨ps, body⟩ := literal_of_readRoleName (isText_tail (by decide) later) opened
    exact ⟨before, .string ps, by rw [Value.text, encode_literal, body]⟩
  split at opened
  · next brace =>
    subst brace
    obtain ⟨inside, c, after, rfl, inner⟩ := opening_of_ok opened
    split at inner
    · next quote =>
      subst quote
      have name_text := isText_tail (by decide) (isText_append inside.text (isText_tail (by decide) later))
      obtain ⟨⟨role, t⟩, named, keyed⟩ := bind_eq_ok inner
      obtain ⟨key, rfl⟩ := literal_of_readRoleName name_text named
      obtain ⟨u, colon, valued⟩ := bind_eq_ok keyed
      obtain ⟨afterKey, rfl⟩ := colon_of_readColon colon
      obtain ⟨w, null, closed⟩ := bind_eq_ok valued
      obtain ⟨beforeValue, rfl⟩ := null_of_readNull null
      obtain ⟨afterValue, d, x, rfl, closing⟩ := opening_of_ok closed
      split at closing
      · next closes =>
        cases closing
        refine ⟨before, .object inside (.more [] key afterKey beforeValue .null afterValue .none), ?_⟩
        rw [encode_object, encode_members, closes]
        rfl
      · cases closing
    split at inner
    · cases inner
    · cases inner
  · cases opened

/-- A value that is read is one of the grammar. -/
theorem Kind.value_of_read (k : Kind) {x : k.Value} (text : IsText s) (read : k.read s = .ok (x, rest)) :
    ∃ (before : Space) (v : Json.Value), s = Utf8.encode before.text ++ (Utf8.encode v.text ++ rest) := by
  cases k with
  | text | path =>
    obtain ⟨before, ps, split⟩ := string_of_readString text read
    exact ⟨before, _, split⟩
  | port =>
    obtain ⟨before, n, split⟩ := number_of_readPort read
    exact ⟨before, _, split⟩
  | role => exact role_of_readRole text read
  | instant =>
    obtain ⟨⟨name, left⟩, string, timed⟩ := bind_eq_ok read
    obtain ⟨before, ps, split⟩ := string_of_readString text string
    simp only at timed
    split at timed
    · cases timed
      exact ⟨before, _, split⟩
    · cases timed

end ClusterRegister.Record
