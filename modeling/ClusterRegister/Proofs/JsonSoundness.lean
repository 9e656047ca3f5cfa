import ClusterRegister.Proofs.JsonGrammar
import ClusterRegister.Proofs.Outcomes
import ClusterRegister.Proofs.Utf8Pieces

/-!
# Skipped text

The grammar leaves nothing out: whatever is skipped as a value is the text of one (`value_of_skipValue`). Together with
the converse, skipping a value and being a value of the grammar are the same.
-/

namespace ClusterRegister.Json

open ClusterRegister.Text ClusterRegister.Utf8

variable {s rest : Bytes}

theorem space_of_skipSpace (s : Bytes) : ∃ w : Space, s = Utf8.encode w.text ++ skipSpace s := by
  induction s with
  | nil => exact ⟨[], rfl⟩
  | cons b s ih =>
    cases space : isSpace b with
    | false => exact ⟨[], by rw [skipSpace_cons space]; rfl⟩
    | true =>
      obtain ⟨w, split⟩ := ih
      have blank : ∃ k : Blank, byte k.char = b := by
        simp only [isSpace, Bool.or_eq_true, decide_eq_true_eq] at space
        rcases space with ((rfl | rfl) | rfl) | rfl
        · exact ⟨.space, rfl⟩
        · exact ⟨.lineFeed, rfl⟩
        · exact ⟨.tab, rfl⟩
        · exact ⟨.carriageReturn, rfl⟩
      obtain ⟨k, rfl⟩ := blank
      refine ⟨k :: w, ?_⟩
      have ascii : k.char.toNat < 0x80 := by cases k <;> decide
      have skipped : skipSpace (byte k.char :: s) = skipSpace s := List.dropWhile_cons_of_pos space
      rw [skipped, Space.text, List.map_cons, encode_cons ascii, List.cons_append]
      exact congrArg (byte k.char :: ·) split

/-- Where the first byte after white space decides, a text that is read has one. -/
theorem opening_of_ok {α : Type} {fault : Fault} {f : UInt8 → Bytes → Except Fault α} {a : α}
    (read : (match skipSpace s with | [] => Except.error fault | b :: r => f b r) = .ok a) :
    ∃ (w : Space) (b : UInt8) (r : Bytes), s = Utf8.encode w.text ++ b :: r ∧ f b r = .ok a := by
  obtain ⟨w, split⟩ := space_of_skipSpace s
  cases found : skipSpace s with
  | nil => rw [found] at read; cases read
  | cons b r =>
    rw [found] at read split
    exact ⟨w, b, r, split, read⟩

theorem word_of_scanWord {word : List UInt8} (scanned : scanWord word s = .ok rest) : s = word ++ rest := by
  induction word generalizing s with
  | nil =>
    cases scanned
    rfl
  | cons w word ih =>
    cases s with
    | nil => cases scanned
    | cons b s =>
      rw [scanWord] at scanned
      split at scanned
      · next same => rw [same, ih scanned, List.cons_append]
      · cases scanned

private theorem hexDigit_of_hexValue {b : UInt8} {n : Nat} (value : hexValue b = some n) :
    ∃ d : HexDigit, b = byte d.char := by
  have digits : ∀ v : Fin 16, v.val < 10 → (byte (HexDigit.char ⟨v, false⟩)).toNat = v + 0x30 := by decide
  have small : ∀ v : Fin 16, 10 ≤ v.val → (byte (HexDigit.char ⟨v, false⟩)).toNat = v + 0x57 := by decide
  have large : ∀ v : Fin 16, 10 ≤ v.val → (byte (HexDigit.char ⟨v, true⟩)).toNat = v + 0x37 := by decide
  simp only [hexValue, Bool.and_eq_true, decide_eq_true_eq, UInt8.le_iff_toNat_le] at value
  split at value
  · next bounds =>
    obtain ⟨least, most⟩ : 0x30 ≤ b.toNat ∧ b.toNat ≤ 0x39 := bounds
    have number := digits ⟨b.toNat - 0x30, by omega⟩ (by show b.toNat - 0x30 < 10; omega)
    exact ⟨_, UInt8.toNat_inj.1 (by rw [number]; show b.toNat = b.toNat - 0x30 + 0x30; omega)⟩
  split at value
  · next bounds =>
    obtain ⟨least, most⟩ : 0x61 ≤ b.toNat ∧ b.toNat ≤ 0x66 := bounds
    have number := small ⟨b.toNat - 0x57, by omega⟩ (by show 10 ≤ b.toNat - 0x57; omega)
    exact ⟨_, UInt8.toNat_inj.1 (by rw [number]; show b.toNat = b.toNat - 0x57 + 0x57; omega)⟩
  split at value
  · next bounds =>
    obtain ⟨least, most⟩ : 0x41 ≤ b.toNat ∧ b.toNat ≤ 0x46 := bounds
    have number := large ⟨b.toNat - 0x37, by omega⟩ (by show 10 ≤ b.toNat - 0x37; omega)
    exact ⟨_, UInt8.toNat_inj.1 (by rw [number]; show b.toNat = b.toNat - 0x37 + 0x37; omega)⟩
  · cases value

private theorem codeUnit_of_hexQuad {a b c d : UInt8} {n : Nat} (value : hexQuad a b c d = some n) (s : Bytes) :
    ∃ u : CodeUnit, a :: b :: c :: d :: s = Utf8.encode u.text ++ s := by
  simp only [hexQuad, Option.bind_eq_bind, Option.bind_eq_some_iff] at value
  obtain ⟨_, first, _, second, _, third, _, fourth, -⟩ := value
  obtain ⟨a, rfl⟩ := hexDigit_of_hexValue first
  obtain ⟨b, rfl⟩ := hexDigit_of_hexValue second
  obtain ⟨c, rfl⟩ := hexDigit_of_hexValue third
  obtain ⟨d, rfl⟩ := hexDigit_of_hexValue fourth
  exact ⟨⟨a, b, c, d⟩, (encode_unit ⟨a, b, c, d⟩ s).symm⟩

private theorem escape_of_shortEscape {b c : UInt8} (meaning : shortEscape b = some c) :
    ∃ e : Escape, b = byte e.mark := by
  simp only [shortEscape, Bool.or_eq_true, decide_eq_true_eq] at meaning
  split at meaning
  · next special =>
    rcases special with (rfl | rfl) | rfl
    · exact ⟨.quote, rfl⟩
    · exact ⟨.backslash, rfl⟩
    · exact ⟨.slash, rfl⟩
  split at meaning
  · next same => exact ⟨.backspace, same⟩
  split at meaning
  · next same => exact ⟨.formFeed, same⟩
  split at meaning
  · next same => exact ⟨.lineFeed, same⟩
  split at meaning
  · next same => exact ⟨.carriageReturn, same⟩
  split at meaning
  · next same => exact ⟨.tab, same⟩
  · cases meaning

/-- What a backslash begins is an escape. -/
theorem escape_of_skipString (skipped : skipString (byte '\\' :: s) = .ok rest) :
    ∃ (p : Piece) (more : Bytes), byte '\\' :: s = Utf8.encode p.text ++ more := by
  have not_quote : byte '\\' ≠ byte '\x22' := by decide
  rw [skipString.eq_def] at skipped
  simp only [not_quote, if_false, if_true] at skipped
  split at skipped
  · cases skipped
  split at skipped
  · next unit =>
    subst unit
    split at skipped
    · next h₁ h₂ h₃ h₄ s =>
      cases value : hexQuad h₁ h₂ h₃ h₄ with
      | none => rw [value] at skipped; cases skipped
      | some n =>
        obtain ⟨u, digits⟩ := codeUnit_of_hexQuad value s
        exact ⟨.unit u, s, by rw [digits]; rfl⟩
    · cases skipped
  · next e s _ =>
    cases meaning : shortEscape e with
    | none => rw [meaning] at skipped; cases skipped
    | some b =>
      obtain ⟨e, rfl⟩ := escape_of_shortEscape meaning
      have ascii : e.mark.toNat < 0x80 := by cases e <;> decide
      have bytes : Utf8.encode (Piece.short e).text = [byte '\\', byte e.mark] := by
        rw [Piece.text.eq_def, encode_cons (by decide), encode_cons ascii]
        rfl
      exact ⟨.short e, s, by rw [bytes]; rfl⟩

/-- A string goes on with one more piece, or it ends. -/
theorem piece_of_skipString (text : IsText s) (skipped : skipString s = .ok rest) :
    s = byte '\x22' :: rest ∨ ∃ (p : Piece) (more : Bytes), s = Utf8.encode p.text ++ more := by
  obtain ⟨cs, rfl⟩ := text
  cases cs with
  | nil => cases skipped
  | cons c cs =>
    by_cases quote : c = '\x22'
    · subst quote
      have closed : skipString (Utf8.encode ('\x22' :: cs)) = .ok (Utf8.encode cs) := skipString.eq_def _
      rw [closed] at skipped
      cases skipped
      exact .inl rfl
    by_cases backslash : c = '\\'
    · subst backslash
      have escaped : Utf8.encode ('\\' :: cs) = byte '\\' :: Utf8.encode cs := encode_cons (by decide) cs
      rw [escaped] at skipped ⊢
      exact .inr (escape_of_skipString skipped)
    by_cases control : c.toNat < 0x20
    · have first : Utf8.encode (c :: cs) = byte c :: Utf8.encode cs := encode_cons (by omega) cs
      have small : c.toNat < 0x100 := by omega
      have not_quote := byte_ne small (by decide) quote
      have not_backslash := byte_ne small (by decide) backslash
      have below : byte c < 0x20 := by
        rw [UInt8.lt_iff_toNat_lt, byte_toNat small]
        exact control
      rw [first, skipString.eq_def] at skipped
      simp only [not_quote, not_backslash, below, if_false, if_true] at skipped
      cases skipped
    · exact .inr ⟨.plain c ⟨quote, backslash, control⟩, Utf8.encode cs, by rw [Piece.text.eq_def, encode_singleton]; rfl⟩

theorem Piece.length_pos (p : Piece) : 0 < (Utf8.encode p.text).length := by
  refine Nat.lt_of_lt_of_le ?_ (length_le_encode p.text)
  cases p <;> exact Nat.succ_pos _

theorem literal_of_skipString (text : IsText s) (skipped : skipString s = .ok rest) :
    ∃ ps : Literal, s = Utf8.encode ps.body ++ rest := by
  -- a piece can have several bytes, of which only the first is one at which a piece begins
  induction size : s.length using Nat.strongRecOn generalizing s with
  | ind n ih =>
    rcases piece_of_skipString text skipped with rfl | ⟨p, more, rfl⟩
    · exact ⟨[], rfl⟩
    · rw [skipString_piece] at skipped
      have some_bytes := p.length_pos
      have shorter : more.length < n := by
        rw [List.length_append] at size
        omega
      obtain ⟨ps, split⟩ := ih more.length shorter (isText_append _ text) skipped rfl
      exact ⟨p :: ps, by rw [encode_body, ← split]⟩

private theorem digit_of_isDigit {b : UInt8} (digit : isDigit b = true) : ∃ d : Fin 10, b = byte (Nat.digitChar d) := by
  have codes : ∀ d : Fin 10, (byte (Nat.digitChar d)).toNat = d + 0x30 := by decide
  simp only [isDigit, Bool.and_eq_true, decide_eq_true_eq, UInt8.le_iff_toNat_le] at digit
  obtain ⟨least, most⟩ : 0x30 ≤ b.toNat ∧ b.toNat ≤ 0x39 := digit
  have code := codes ⟨b.toNat - 0x30, by omega⟩
  exact ⟨_, UInt8.toNat_inj.1 (by rw [code]; show b.toNat = b.toNat - 0x30 + 0x30; omega)⟩

private theorem digits_of_isDigit {b : UInt8} (digit : isDigit b = true) (s : Bytes) :
    ∃ ds : Digits, b :: s = Utf8.encode ds.text ++ s.dropWhile isDigit := by
  have ascii : ∀ d : Fin 10, (Nat.digitChar d).toNat < 0x80 := by decide
  have more : ∃ ds : List (Fin 10), s = Utf8.encode (ds.map fun (d : Fin 10) => Nat.digitChar d) ++ s.dropWhile isDigit := by
    induction s with
    | nil => exact ⟨[], rfl⟩
    | cons c s ih =>
      cases next : isDigit c with
      | false => exact ⟨[], by rw [List.dropWhile_cons_of_neg (by rw [next]; decide)]; rfl⟩
      | true =>
        obtain ⟨ds, split⟩ := ih
        obtain ⟨d, rfl⟩ := digit_of_isDigit next
        refine ⟨d :: ds, ?_⟩
        rw [List.dropWhile_cons_of_pos next, List.map_cons, encode_cons (ascii d), List.cons_append, ← split]
  obtain ⟨d, rfl⟩ := digit_of_isDigit digit
  obtain ⟨ds, split⟩ := more
  refine ⟨⟨d, ds⟩, ?_⟩
  rw [Digits.text, List.map_cons, encode_cons (ascii d), List.cons_append, ← split]

/-- Where no digit follows a zero, digits that begin with a zero are nothing but this zero. -/
theorem lone_zero {b : UInt8} {ds : Digits} (split : b :: s = Utf8.encode ds.text ++ rest)
    (leading : (b = byte '0' && s.head?.any isDigit) = false) (zero : ds.first = 0) : ds.more = [] := by
  obtain ⟨first, more⟩ := ds
  subst zero
  cases more with
  | nil => rfl
  | cons d more =>
    have ascii : ∀ d : Fin 10, (Nat.digitChar d).toNat < 0x80 := by decide
    have digit : ∀ d : Fin 10, isDigit (byte (Nat.digitChar d)) = true := by decide
    rw [Digits.text, List.map_cons, List.map_cons, encode_cons (ascii 0), encode_cons (ascii d), List.cons_append,
      List.cons_append, List.cons.injEq] at split
    obtain ⟨rfl, next⟩ := split
    rw [next] at leading
    simp only [List.head?_cons, Option.any_some, digit d, Bool.and_true, decide_eq_false_iff_not] at leading
    exact absurd rfl leading

/-- Digits without zeros in front are those of a number. -/
theorem decimal_of_digits (ds : Digits) (no_zero : ds.first = 0 → ds.more = []) : ∃ n, decimal n = ds.text := by
  obtain ⟨first, more⟩ := ds
  by_cases zero : first = 0
  · subst zero
    rw [show more = [] from no_zero rfl]
    exact ⟨0, rfl⟩
  · have positive : ∃ n, 0 < n ∧ decimal n = Digits.text ⟨first, more⟩ := by
      induction more using List.reverseRecOn with
      | nil =>
        have single : ∀ d : Fin 10, decimal d.val = Digits.text ⟨d, []⟩ := by decide
        exact ⟨first, Nat.pos_of_ne_zero fun same => zero (Fin.ext same), single first⟩
      | append_singleton more d ih =>
        obtain ⟨n, some_value, digits⟩ := ih fun same => absurd same zero
        have last : Nat.toDigits 10 d.val = [Nat.digitChar d] := Nat.toDigits_of_lt_base d.isLt
        have longer := Nat.toDigits_append_toDigits (by decide : 1 < 10) some_value d.isLt
        refine ⟨10 * n + d, by omega, ?_⟩
        rw [decimal, ← longer, last, ← decimal, digits, Digits.text, Digits.text]
        simp
    obtain ⟨n, -, digits⟩ := positive
    exact ⟨n, digits⟩

/-- Digits that do not matter, at least one. -/
def skipDigits (s : Bytes) : Except Fault Bytes :=
  match s with
  | [] => .error (faultAt .badNumber [])
  | b :: r => if isDigit b then .ok (r.dropWhile isDigit) else .error (faultAt .badNumber r)

private theorem digits_of_skipDigits (skipped : skipDigits s = .ok rest) :
    ∃ ds : Digits, s = Utf8.encode ds.text ++ rest := by
  cases s with
  | nil => cases skipped
  | cons b r =>
    rw [skipDigits] at skipped
    split at skipped
    · next digit =>
      cases skipped
      exact digits_of_isDigit digit r
    · cases skipped

private theorem exponent_of_skipExponent {e : UInt8} (letter : e = byte 'e' ∨ e = byte 'E')
    (skipped : skipExponent s = .ok rest) : ∃ x : Exponent, e :: s = Utf8.encode x.text ++ rest := by
  have upper : ∃ upper : Bool, ∀ sign digits, e = byte (Exponent.letter ⟨upper, sign, digits⟩) := by
    rcases letter with rfl | rfl
    · exact ⟨false, fun _ _ => rfl⟩
    · exact ⟨true, fun _ _ => rfl⟩
  obtain ⟨upper, letter⟩ := upper
  by_cases sign : ∃ b r, s = b :: r ∧ (b = byte '+' ∨ b = byte '-')
  · obtain ⟨b, r, rfl, sign⟩ := sign
    have signed : skipExponent (b :: r) = skipDigits r := by
      rcases sign with rfl | rfl <;> rfl
    obtain ⟨ds, split⟩ := digits_of_skipDigits (signed.symm.trans skipped)
    have down : ∃ down : Bool, b = byte (if down then '-' else '+') := by
      rcases sign with rfl | rfl
      · exact ⟨false, rfl⟩
      · exact ⟨true, rfl⟩
    obtain ⟨down, rfl⟩ := down
    refine ⟨⟨upper, some down, ds⟩, ?_⟩
    have ascii : (if down then '-' else '+' : Char).toNat < 0x80 := by cases down <;> decide
    rw [encode_exponent, ← letter, Exponent.tail, Option.elim_some, List.singleton_append, encode_cons ascii, split]
    rfl
  · have unsigned : skipExponent s = skipDigits s := by
      cases s with
      | nil => rfl
      | cons b r =>
        have no_sign : b ≠ byte '+' ∧ b ≠ byte '-' := by
          refine ⟨fun plus => sign ⟨b, r, rfl, .inl plus⟩, fun minus => sign ⟨b, r, rfl, .inr minus⟩⟩
        simp only [skipExponent, no_sign.1, no_sign.2, decide_false, Bool.or_self, Bool.false_eq_true, if_false]
        rfl
    obtain ⟨ds, split⟩ := digits_of_skipDigits (unsigned.symm.trans skipped)
    refine ⟨⟨upper, none, ds⟩, ?_⟩
    rw [encode_exponent, ← letter, Exponent.tail, Option.elim_none, List.nil_append, split]

private theorem exponent_of_skipScale (skipped : skipScale s = .ok rest) :
    ∃ x : Option Exponent, s = Utf8.encode (x.elim [] Exponent.text) ++ rest := by
  cases s with
  | nil =>
    cases skipped
    exact ⟨none, rfl⟩
  | cons e r =>
    rw [skipScale] at skipped
    split at skipped
    · next letter =>
      rw [Bool.or_eq_true, decide_eq_true_eq, decide_eq_true_eq] at letter
      obtain ⟨x, split⟩ := exponent_of_skipExponent letter skipped
      exact ⟨some x, split⟩
    · cases skipped
      exact ⟨none, rfl⟩

private theorem scale_of_skipAfterDigits (skipped : skipAfterDigits s = .ok rest) (negative : Bool) (whole : Nat) :
    ∃ fraction exponent, s = Utf8.encode (NumberText.scale ⟨negative, whole, fraction, exponent⟩) ++ rest := by
  by_cases point : ∃ after, s = byte '.' :: after
  · obtain ⟨after, rfl⟩ := point
    cases after with
    | nil => cases skipped
    | cons d r =>
      simp only [skipAfterDigits, if_true] at skipped
      split at skipped
      · next digit =>
        obtain ⟨ds, split⟩ := digits_of_isDigit digit r
        rw [List.dropWhile_cons_of_pos digit] at skipped
        obtain ⟨x, later⟩ := exponent_of_skipScale skipped
        refine ⟨some ds, x, ?_⟩
        rw [split, later, NumberText.scale, Option.elim_some, List.cons_append, encode_cons (by decide),
          Utf8.encode_append, List.cons_append, List.append_assoc]
      · cases skipped
  · have scaled : skipAfterDigits s = skipScale s := by
      cases s with
      | nil => rfl
      | cons c after => exact if_neg fun same => point ⟨after, by rw [same]⟩
    obtain ⟨x, later⟩ := exponent_of_skipScale (scaled.symm.trans skipped)
    refine ⟨none, x, ?_⟩
    rw [NumberText.scale, Option.elim_none, List.nil_append]
    exact later

theorem number_of_skipNumber (skipped : skipNumber s = .ok rest) (negative : Bool) :
    ∃ n : NumberText, n.negative = negative ∧ s = Utf8.encode n.unsigned ++ rest := by
  cases s with
  | nil => cases skipped
  | cons b r =>
    have first : isDigit b = true := by
      by_contra none
      rw [skipNumber, if_pos none] at skipped
      cases skipped
    have leading : (b = byte '0' && r.head?.any isDigit) = false := by
      by_contra zeros
      rw [Bool.not_eq_false] at zeros
      rw [skipNumber, if_neg (not_not.2 first), if_pos zeros] at skipped
      cases skipped
    have after : skipAfterDigits (r.dropWhile isDigit) = .ok rest := by
      simp only [skipNumber, first, leading, List.dropWhile_cons_of_pos first, not_true_eq_false, if_false,
        Bool.false_eq_true] at skipped
      exact skipped
    obtain ⟨ds, split⟩ := digits_of_isDigit first r
    obtain ⟨n, digits⟩ := decimal_of_digits ds (lone_zero split leading)
    obtain ⟨fraction, exponent, scale⟩ := scale_of_skipAfterDigits after negative n
    refine ⟨⟨negative, n, fraction, exponent⟩, rfl, ?_⟩
    rw [NumberText.unsigned, digits, Utf8.encode_append, List.append_assoc, ← scale, ← split]

private theorem separator_of_scanSeparator {close : UInt8} {ended expected : Cause} {more : Bool}
    (scanned : scanSeparator close ended expected s = .ok (more, rest)) :
    ∃ after : Space, s = Utf8.encode after.text ++ (if more then byte ',' else close) :: rest := by
  rw [scanSeparator] at scanned
  obtain ⟨after, b, r, split, scanned⟩ := opening_of_ok scanned
  split at scanned
  · next comma =>
    cases scanned
    exact ⟨after, by rw [if_pos rfl, ← comma, split]⟩
  split at scanned
  · next closes =>
    cases scanned
    exact ⟨after, by rw [if_neg Bool.false_ne_true, ← closes, split]⟩
  · cases scanned

private theorem key_of_skipKey (text : IsText s) (skipped : skipKey s = .ok rest) :
    ∃ (before : Space) (key : Literal) (afterKey : Space), s = Utf8.encode before.text ++ (byte '\x22' ::
      (Utf8.encode key.body ++ (Utf8.encode afterKey.text ++ byte ':' :: rest))) := by
  rw [skipKey] at skipped
  obtain ⟨before, b, r, rfl, opened⟩ := opening_of_ok skipped
  split at opened
  · cases opened
  · next quote =>
    obtain rfl := not_not.1 quote
    obtain ⟨t, string, opened⟩ := bind_eq_ok opened
    obtain ⟨key, content⟩ := literal_of_skipString (isText_tail (by decide) (isText_append before.text text)) string
    obtain ⟨afterKey, c, u, more, after_key⟩ := opening_of_ok opened
    split at after_key
    · next colon =>
      cases after_key
      exact ⟨before, key, afterKey, by rw [content, more, colon]⟩
    · cases after_key

mutual

-- The recursion is that of the three functions, on the fuel.

private theorem value_of_skipValueWith (fuel : Nat) {s rest : Bytes} (text : IsText s)
    (skipped : skipValueWith fuel s = .ok rest) :
    ∃ (before : Space) (v : Value), s = Utf8.encode before.text ++ (Utf8.encode v.text ++ rest) := by
  cases fuel with
  | zero => cases skipped
  | succ fuel =>
    rw [skipValueWith] at skipped
    obtain ⟨before, b, r, rfl, opened⟩ := opening_of_ok skipped
    have later : IsText (b :: r) := isText_append before.text text
    suffices value : ∃ v : Value, b :: r = Utf8.encode v.text ++ rest by
      obtain ⟨v, found⟩ := value
      exact ⟨before, v, by rw [found]⟩
    split at opened
    · next word =>
      rw [word_of_scanWord opened]
      simp only [Bool.or_eq_true, decide_eq_true_eq] at word
      rcases word with (rfl | rfl) | rfl
      · exact ⟨.null, rfl⟩
      · exact ⟨.boolean true, rfl⟩
      · exact ⟨.boolean false, rfl⟩
    split at opened
    · next sign =>
      obtain ⟨n, negative, found⟩ := number_of_skipNumber opened true
      exact ⟨.number n, by rw [Value.text, encode_negative negative, found, sign]⟩
    split at opened
    · obtain ⟨n, positive, found⟩ := number_of_skipNumber opened false
      exact ⟨.number n, by rw [Value.text, NumberText.text, positive, found]; rfl⟩
    split at opened
    · next quote =>
      subst quote
      obtain ⟨ps, found⟩ := literal_of_skipString (isText_tail (by decide) later) opened
      exact ⟨.string ps, by rw [Value.text, encode_literal, found]⟩
    split at opened
    · next bracket =>
      subst bracket
      obtain ⟨inside, c, after, rfl, inner⟩ := opening_of_ok opened
      split at inner
      · next closes =>
        cases inner
        exact ⟨.list inside .none, by rw [encode_list, closes]; rfl⟩
      · have elements := isText_append inside.text (isText_tail (by decide) later)
        obtain ⟨w, v, after, es, found⟩ := elements_of_skipElements fuel elements inner
        exact ⟨.list inside (.more w v after es), by rw [encode_list, found]⟩
    split at opened
    · next brace =>
      subst brace
      obtain ⟨inside, c, after, rfl, inner⟩ := opening_of_ok opened
      split at inner
      · next closes =>
        cases inner
        exact ⟨.object inside .none, by rw [encode_object, closes]; rfl⟩
      · have members := isText_append inside.text (isText_tail (by decide) later)
        obtain ⟨w, key, afterKey, beforeValue, v, after, ms, found⟩ := members_of_skipMembers fuel members inner
        exact ⟨.object inside (.more w key afterKey beforeValue v after ms), by rw [encode_object, found]⟩
    · cases opened
termination_by fuel

private theorem elements_of_skipElements (fuel : Nat) {s rest : Bytes} (text : IsText s)
    (skipped : skipElements fuel s = .ok rest) :
    ∃ (before : Space) (v : Value) (after : Space) (es : Elements),
      s = Utf8.encode ((Elements.more before v after es).text true) ++ byte ']' :: rest := by
  cases fuel with
  | zero => cases skipped
  | succ fuel =>
    rw [skipElements] at skipped
    obtain ⟨t, value, separated⟩ := bind_eq_ok skipped
    obtain ⟨before, v, rfl⟩ := value_of_skipValueWith fuel text value
    have after_value : IsText t := isText_append v.text (isText_append before.text text)
    obtain ⟨⟨more, u⟩, scanned, continued⟩ := bind_eq_ok separated
    obtain ⟨after, rfl⟩ := separator_of_scanSeparator scanned
    cases more with
    | false =>
      cases continued
      exact ⟨before, v, after, .none, by rw [encode_elements]; rfl⟩
    | true =>
      have after_comma : IsText u := isText_tail (by decide) (isText_append after.text after_value)
      obtain ⟨before', v', after', es, later⟩ := elements_of_skipElements fuel after_comma continued
      exact ⟨before, v, after, .more before' v' after' es, by
        rw [encode_elements, encode_comma_elements, later]; rfl⟩
termination_by fuel

private theorem members_of_skipMembers (fuel : Nat) {s rest : Bytes} (text : IsText s)
    (skipped : skipMembers fuel s = .ok rest) :
    ∃ (before : Space) (key : Literal) (afterKey beforeValue : Space) (v : Value) (after : Space) (ms : Members),
      s = Utf8.encode ((Members.more before key afterKey beforeValue v after ms).text true) ++ byte '\x7d' :: rest := by
  cases fuel with
  | zero => cases skipped
  | succ fuel =>
    rw [skipMembers] at skipped
    obtain ⟨t, named, valued⟩ := bind_eq_ok skipped
    obtain ⟨before, key, afterKey, rfl⟩ := key_of_skipKey text named
    have after_quote := isText_tail (by decide) (isText_append before.text text)
    have after_colon : IsText t :=
      isText_tail (by decide) (isText_append afterKey.text (isText_append key.body after_quote))
    obtain ⟨u, value, separated⟩ := bind_eq_ok valued
    obtain ⟨beforeValue, v, rfl⟩ := value_of_skipValueWith fuel after_colon value
    have after_value : IsText u := isText_append v.text (isText_append beforeValue.text after_colon)
    obtain ⟨⟨more, w⟩, scanned, continued⟩ := bind_eq_ok separated
    obtain ⟨after, rfl⟩ := separator_of_scanSeparator scanned
    cases more with
    | false =>
      cases continued
      exact ⟨before, key, afterKey, beforeValue, v, after, .none, by rw [encode_members]; rfl⟩
    | true =>
      have after_comma : IsText w := isText_tail (by decide) (isText_append after.text after_value)
      obtain ⟨before', key', afterKey', beforeValue', v', after', ms, later⟩ :=
        members_of_skipMembers fuel after_comma continued
      exact ⟨before, key, afterKey, beforeValue, v, after, .more before' key' afterKey' beforeValue' v' after' ms, by
        rw [encode_members, encode_comma_members, later]; rfl⟩
termination_by fuel

end

/-- Whatever is skipped in a text as a value is white space and the text of a value. -/
theorem value_of_skipValue (text : IsText s) (skipped : skipValue s = .ok rest) :
    ∃ (before : Space) (v : Value), s = Utf8.encode before.text ++ (Utf8.encode v.text ++ rest) :=
  value_of_skipValueWith _ text skipped

end ClusterRegister.Json
