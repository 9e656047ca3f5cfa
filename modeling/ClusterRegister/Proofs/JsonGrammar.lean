import ClusterRegister.Json.Skip
import ClusterRegister.Proofs.RecordText
import Mathlib.Data.List.DropRight

/-!
# The grammar of JSON text

Values as trees that keep every choice a text has: the white space around its pieces, escapes where none are
needed, the case of hexadecimal digits, how a number is written. A statement about all trees is one about all
texts of the grammar. A value that does not matter is skipped, whatever it is.
-/

namespace ClusterRegister.Json

open ClusterRegister.Text

inductive Blank
  | space
  | lineFeed
  | tab
  | carriageReturn
deriving DecidableEq, Repr

def Blank.char : Blank → Char
  | .space => ' '
  | .lineFeed => '\n'
  | .tab => '\t'
  | .carriageReturn => '\r'

/-- White space between the pieces of a text. -/
abbrev Space := List Blank

def Space.text (w : Space) : List Char := w.map Blank.char

structure HexDigit where
  value : Fin 16
  upper : Bool
deriving DecidableEq, Repr

def HexDigit.char (d : HexDigit) : Char :=
  if d.upper then (Nat.digitChar d.value).toUpper else Nat.digitChar d.value

/-- Four hexadecimal digits: a code unit of UTF-16. -/
structure CodeUnit where
  first : HexDigit
  second : HexDigit
  third : HexDigit
  fourth : HexDigit
deriving DecidableEq, Repr

def CodeUnit.value (u : CodeUnit) : Nat :=
  ((u.first.value * 16 + u.second.value) * 16 + u.third.value) * 16 + u.fourth.value

def CodeUnit.text (u : CodeUnit) : List Char :=
  [u.first.char, u.second.char, u.third.char, u.fourth.char]

/-- Escapes of a backslash and one more character. -/
inductive Escape
  | quote
  | backslash
  | slash
  | backspace
  | formFeed
  | lineFeed
  | carriageReturn
  | tab
deriving DecidableEq, Repr

/-- The character after the backslash. -/
def Escape.mark : Escape → Char
  | .quote => '\x22'
  | .backslash => '\\'
  | .slash => '/'
  | .backspace => 'b'
  | .formFeed => 'f'
  | .lineFeed => 'n'
  | .carriageReturn => 'r'
  | .tab => 't'

def Escape.meaning : Escape → Char
  | .quote => '\x22'
  | .backslash => '\\'
  | .slash => '/'
  | .backspace => '\x08'
  | .formFeed => '\x0C'
  | .lineFeed => '\n'
  | .carriageReturn => '\r'
  | .tab => '\t'

/-- A character that may stand in a string as it is. -/
def Unescaped (c : Char) : Prop := c ≠ '\x22' ∧ c ≠ '\\' ∧ ¬ c.toNat < 0x20

instance (c : Char) : Decidable (Unescaped c) := inferInstanceAs (Decidable (_ ∧ _ ∧ _))

/-- What a string is written in. -/
inductive Piece
  | plain (c : Char) (alone : Unescaped c)
  | short (e : Escape)
  | unit (u : CodeUnit)
deriving DecidableEq, Repr

def Piece.text : Piece → List Char
  | .plain c _ => [c]
  | .short e => ['\\', e.mark]
  | .unit u => '\\' :: 'u' :: u.text

/-- A string between its quotes. -/
abbrev Literal := List Piece

/-- The pieces of a string and its closing quote. -/
def Literal.body (ps : Literal) : List Char := ps.flatMap Piece.text ++ ['\x22']

def Literal.text (ps : Literal) : List Char := '\x22' :: ps.body

/-- Digits, at least one. -/
structure Digits where
  first : Fin 10
  more : List (Fin 10)
deriving DecidableEq, Repr

def Digits.text (ds : Digits) : List Char := (ds.first :: ds.more).map fun (d : Fin 10) => Nat.digitChar d

structure Exponent where
  upper : Bool
  /-- Whether the sign is a minus, if there is one. -/
  sign : Option Bool
  digits : Digits
deriving DecidableEq, Repr

def Exponent.letter (x : Exponent) : Char := if x.upper then 'E' else 'e'

/-- An exponent after its letter. -/
def Exponent.tail (x : Exponent) : List Char :=
  (x.sign.elim [] fun down => [if down then '-' else '+']) ++ x.digits.text

def Exponent.text (x : Exponent) : List Char := x.letter :: x.tail

/-- A number as it is written. The digits before the point have no zeros in front. -/
structure NumberText where
  negative : Bool
  whole : Nat
  fraction : Option Digits
  exponent : Option Exponent
deriving DecidableEq, Repr

/-- What follows the digits before the point. -/
def NumberText.scale (n : NumberText) : List Char :=
  (n.fraction.elim [] fun ds => '.' :: ds.text) ++ n.exponent.elim [] Exponent.text

/-- A number without its sign. -/
def NumberText.unsigned (n : NumberText) : List Char := decimal n.whole ++ n.scale

def NumberText.text (n : NumberText) : List Char :=
  if n.negative then '-' :: n.unsigned else n.unsigned

/-! ### Values -/

mutual

inductive Value
  | null
  | boolean (value : Bool)
  | number (n : NumberText)
  | string (ps : Literal)
  | list (inside : Space) (elements : Elements)
  | object (inside : Space) (members : Members)

/-- The elements of a list. -/
inductive Elements
  | none
  | more (before : Space) (v : Value) (after : Space) (rest : Elements)

/-- The members of an object. -/
inductive Members
  | none
  | more (before : Space) (key : Literal) (afterKey beforeValue : Space) (v : Value) (after : Space)
      (rest : Members)

end

mutual

def Value.text : Value → List Char
  | .null => ['n', 'u', 'l', 'l']
  | .boolean true => ['t', 'r', 'u', 'e']
  | .boolean false => ['f', 'a', 'l', 's', 'e']
  | .number n => n.text
  | .string ps => ps.text
  | .list inside elements => '[' :: (inside.text ++ elements.text true ++ [']'])
  | .object inside members => '\x7b' :: (inside.text ++ members.text true ++ ['\x7d'])

/-- Elements with a comma before each one but the first. -/
def Elements.text : Elements → Bool → List Char
  | .none, _ => []
  | .more before v after rest, first =>
    (if first then [] else [',']) ++ before.text ++ v.text ++ after.text ++ rest.text false

/-- Members with a comma before each one but the first. -/
def Members.text : Members → Bool → List Char
  | .none, _ => []
  | .more before key afterKey beforeValue v after rest, first =>
    (if first then [] else [',']) ++ before.text ++ key.text ++ afterKey.text ++ ':' :: beforeValue.text ++
      v.text ++ after.text ++ rest.text false

end

theorem encode_cons {c : Char} (ascii : c.toNat < 0x80) (cs : List Char) :
    Utf8.encode (c :: cs) = byte c :: Utf8.encode cs := by
  rw [Utf8.encode, List.flatMap_cons, encodeChar_ascii ascii]
  rfl

theorem length_le_encode (cs : List Char) : cs.length ≤ (Utf8.encode cs).length := by
  induction cs with
  | nil => exact Nat.zero_le _
  | cons c cs ih =>
    have some_byte : 0 < (String.utf8EncodeChar c).length := by
      rw [String.length_utf8EncodeChar]
      exact Char.utf8Size_pos c
    rw [Utf8.encode, List.flatMap_cons, List.length_append, List.length_cons]
    rw [Utf8.encode] at ih
    omega

theorem skipSpace_text (w : Space) (s : Bytes) : skipSpace (Utf8.encode w.text ++ s) = skipSpace s := by
  induction w with
  | nil => rfl
  | cons b w ih => cases b <;> exact ih

private theorem skipSpace_skipSpace (s : Bytes) : skipSpace (skipSpace s) = skipSpace s :=
  List.dropWhile_idempotent isSpace s

private theorem hexValue_char (d : HexDigit) : hexValue (byte d.char) = some d.value.val := by
  obtain ⟨value, upper⟩ := d
  revert value upper
  decide

theorem HexDigit.ascii (d : HexDigit) : d.char.toNat < 0x80 := by
  obtain ⟨value, upper⟩ := d
  revert value upper
  decide

theorem encode_unit (u : CodeUnit) (s : Bytes) :
    Utf8.encode u.text ++ s =
      byte u.first.char :: byte u.second.char :: byte u.third.char :: byte u.fourth.char :: s := by
  rw [CodeUnit.text, encode_cons u.first.ascii, encode_cons u.second.ascii, encode_cons u.third.ascii,
    encode_cons u.fourth.ascii]
  rfl

theorem hexQuad_unit (u : CodeUnit) :
    hexQuad (byte u.first.char) (byte u.second.char) (byte u.third.char) (byte u.fourth.char) = some u.value := by
  rw [hexQuad, hexValue_char, hexValue_char, hexValue_char, hexValue_char]
  rfl

theorem skipString_plain {bs : Bytes} (plain : ∀ b ∈ bs, Plain b) (s : Bytes) :
    skipString (bs ++ s) = skipString s := by
  induction bs with
  | nil => rfl
  | cons b bs ih =>
    obtain ⟨not_quote, not_backslash, not_control⟩ := plain b (.head _)
    rw [List.cons_append, skipString.eq_def]
    simp only [not_quote, not_backslash, not_control, if_false]
    exact ih fun d later => plain d (.tail _ later)

theorem skipString_piece (p : Piece) (s : Bytes) : skipString (Utf8.encode p.text ++ s) = skipString s := by
  cases p with
  | plain c alone =>
    rw [Piece.text, encode_singleton]
    exact skipString_plain (plain_bytes alone.1 alone.2.1 alone.2.2) s
  | short e => cases e <;> exact skipString.eq_def _
  | unit u =>
    have text : Utf8.encode (Piece.unit u).text ++ s = byte '\\' :: byte 'u' :: (Utf8.encode u.text ++ s) := rfl
    have not_quote : byte '\\' ≠ byte '\x22' := by decide
    rw [text, encode_unit, skipString.eq_def]
    simp only [not_quote, if_false, if_true, hexQuad_unit]

theorem encode_body (p : Piece) (ps : Literal) (s : Bytes) :
    Utf8.encode (Literal.body (p :: ps)) ++ s = Utf8.encode p.text ++ (Utf8.encode ps.body ++ s) := by
  simp only [Literal.body, List.flatMap_cons, Utf8.encode_append, List.append_assoc]

private theorem skipString_body (ps : Literal) (rest : Bytes) :
    skipString (Utf8.encode ps.body ++ rest) = .ok rest := by
  induction ps with
  | nil => exact skipString.eq_def _
  | cons p ps ih => rw [encode_body, skipString_piece, ih]

theorem ne_of_isDigit {b d : UInt8} (digit : isDigit b = true) (other : isDigit d = false) : b ≠ d := by
  rintro rfl
  rw [digit] at other
  cases other

theorem Digits.isDigit_of_mem (ds : Digits) : ∀ c ∈ ds.text, c.isDigit = true := by
  have each : ∀ d : Fin 10, (Nat.digitChar d).isDigit = true := by decide
  intro c member
  obtain ⟨d, -, rfl⟩ := List.mem_map.1 member
  exact each d

theorem Digits.text_cons (ds : Digits) (rest : Bytes) :
    ∃ d more, Utf8.encode ds.text ++ rest = d :: more ∧ isDigit d = true := by
  have all_digits := ds.isDigit_of_mem
  rw [encode_ascii fun c member => ascii_of_isDigit (all_digits c member)]
  exact ⟨_, _, rfl, isDigit_byte (all_digits _ (.head _))⟩

private theorem dropWhile_digits (ds : Digits) {rest : Bytes} (ends : EndsDigits rest) :
    (Utf8.encode ds.text ++ rest).dropWhile isDigit = rest :=
  (span_digits ds.isDigit_of_mem ends).2

theorem Exponent.byte_letter (x : Exponent) : byte x.letter = byte 'e' ∨ byte x.letter = byte 'E' := by
  rw [Exponent.letter]
  cases x.upper with
  | false => exact .inl rfl
  | true => exact .inr rfl

theorem encode_exponent (x : Exponent) (rest : Bytes) :
    Utf8.encode x.text ++ rest = byte x.letter :: (Utf8.encode x.tail ++ rest) := by
  have ascii : x.letter.toNat < 0x80 := by rw [Exponent.letter]; split <;> decide
  rw [Exponent.text, encode_cons ascii]
  rfl

private theorem skipExponent_tail (x : Exponent) {rest : Bytes} (ends : EndsDigits rest) :
    skipExponent (Utf8.encode x.tail ++ rest) = .ok rest := by
  obtain ⟨d, more, split, digit⟩ := x.digits.text_cons rest
  have left := dropWhile_digits x.digits ends
  rw [split, List.dropWhile_cons_of_pos digit] at left
  have unsigned : skipExponent (d :: more) = .ok rest := by
    have not_sign : d ≠ byte '+' ∧ d ≠ byte '-' := ⟨ne_of_isDigit digit rfl, ne_of_isDigit digit rfl⟩
    simp only [skipExponent, not_sign.1, not_sign.2, decide_false, Bool.or_self, Bool.false_eq_true, if_false,
      digit, if_true, left]
  rw [Exponent.tail, Utf8.encode_append, List.append_assoc, split]
  cases x.sign with
  | none => exact unsigned
  | some down =>
    have signed (b : UInt8) (sign : b = byte '+' ∨ b = byte '-') : skipExponent (b :: d :: more) = .ok rest := by
      rcases sign with rfl | rfl <;>
        simp only [skipExponent, decide_true, Bool.true_or, Bool.or_true, if_true, digit, left]
    cases down with
    | false => exact signed _ (.inl rfl)
    | true => exact signed _ (.inr rfl)

/-- A number that does not matter where it may have an exponent. -/
def skipScale (rest : Bytes) : Except Fault Bytes :=
  match rest with
  | [] => .ok []
  | e :: beyond => if e = byte 'e' || e = byte 'E' then skipExponent beyond else .ok (e :: beyond)

/-- A number that does not matter after its first digits. -/
def skipAfterDigits (rest : Bytes) : Except Fault Bytes :=
  match rest with
  | [] => .ok []
  | c :: after =>
    if c = byte '.' then
      match after with
      | d :: _ =>
        if isDigit d then skipScale (after.dropWhile isDigit) else .error (faultPast .badNumber after)
      | [] => .error (faultPast .badNumber after)
    else skipScale (c :: after)

private theorem skipNumber_decimal (n : Nat) {rest : Bytes} (ends : EndsDigits rest) :
    skipNumber (Utf8.encode (decimal n) ++ rest) = skipAfterDigits rest := by
  have all_digits : ∀ c ∈ decimal n, c.isDigit = true := fun c => decimal_isDigit
  have left := (span_digits all_digits ends).2
  rw [encode_ascii fun c member => ascii_of_isDigit (all_digits c member)] at left ⊢
  obtain ⟨d, ds, split, first⟩ := decimal_cons n
  have leading := no_leading_zero split ends
  rw [split, List.map_cons, List.cons_append] at left ⊢
  simp only [skipNumber, first, leading, left, not_true_eq_false, if_false, Bool.false_eq_true]
  rfl

section Numbers

variable {rest : Bytes}

private theorem endsDigits_exponent (x : Option Exponent) (ends : EndsNumber rest) :
    EndsDigits (Utf8.encode (x.elim [] Exponent.text) ++ rest) := by
  cases x with
  | none => exact ends.endsDigits
  | some x =>
    rw [Option.elim_some, encode_exponent]
    intro b head
    cases head
    rcases x.byte_letter with letter | letter <;> rw [letter] <;> rfl

theorem endsDigits_scale (n : NumberText) (ends : EndsNumber rest) :
    EndsDigits (Utf8.encode n.scale ++ rest) := by
  rw [NumberText.scale, Utf8.encode_append, List.append_assoc]
  cases n.fraction with
  | none => exact endsDigits_exponent n.exponent ends
  | some ds =>
    intro b head
    cases head
    rfl

private theorem skipScale_exponent (x : Option Exponent) (ends : EndsNumber rest) :
    skipScale (Utf8.encode (x.elim [] Exponent.text) ++ rest) = .ok rest := by
  cases x with
  | none =>
    rw [Option.elim_none, Utf8.encode_nil, List.nil_append]
    cases rest with
    | nil => rfl
    | cons b after =>
      obtain ⟨-, -, not_e, not_E⟩ := ends b rfl
      simp only [skipScale, not_e, not_E, decide_false, Bool.or_self, Bool.false_eq_true, if_false]
  | some x =>
    have skipped := skipExponent_tail x ends.endsDigits
    rw [Option.elim_some, encode_exponent]
    rcases x.byte_letter with letter | letter <;> rw [letter] <;>
      simp only [skipScale, decide_true, Bool.true_or, Bool.or_true, if_true, skipped]

private theorem skipAfterDigits_scale (n : NumberText) (ends : EndsNumber rest) :
    skipAfterDigits (Utf8.encode n.scale ++ rest) = .ok rest := by
  have scaled := skipScale_exponent n.exponent ends
  rw [NumberText.scale, Utf8.encode_append, List.append_assoc]
  cases n.fraction with
  | none =>
    rw [Option.elim_none, Utf8.encode_nil, List.nil_append, ← scaled]
    have no_point : ∀ b ∈ (Utf8.encode (n.exponent.elim [] Exponent.text) ++ rest).head?, b ≠ byte '.' := by
      cases n.exponent with
      | none => exact fun b head => (ends b head).2.1
      | some x =>
        rw [Option.elim_some, encode_exponent]
        intro b head
        cases head
        rcases x.byte_letter with letter | letter <;> rw [letter] <;> decide
    generalize Utf8.encode (n.exponent.elim [] Exponent.text) ++ rest = s at no_point
    cases s with
    | nil => rfl
    | cons b after => exact if_neg (no_point b rfl)
  | some ds =>
    have left := dropWhile_digits ds (endsDigits_exponent n.exponent ends)
    obtain ⟨d, more, split, digit⟩ := ds.text_cons (Utf8.encode (n.exponent.elim [] Exponent.text) ++ rest)
    rw [split] at left
    rw [Option.elim_some, encode_cons (by decide), List.cons_append, split]
    simp only [skipAfterDigits, if_true, digit, left, scaled]

private theorem skipNumber_unsigned (n : NumberText) (ends : EndsNumber rest) :
    skipNumber (Utf8.encode n.unsigned ++ rest) = .ok rest := by
  rw [NumberText.unsigned, Utf8.encode_append, List.append_assoc,
    skipNumber_decimal n.whole (endsDigits_scale n ends), skipAfterDigits_scale n ends]

end Numbers

/-! ### Values that do not matter -/

theorem encode_literal (ps : Literal) (rest : Bytes) :
    Utf8.encode ps.text ++ rest = byte '\x22' :: (Utf8.encode ps.body ++ rest) := rfl

theorem encode_negative {n : NumberText} (negative : n.negative = true) (rest : Bytes) :
    Utf8.encode n.text ++ rest = byte '-' :: (Utf8.encode n.unsigned ++ rest) := by
  rw [NumberText.text, if_pos negative]
  rfl

theorem encode_positive {n : NumberText} (positive : n.negative = false) (rest : Bytes) :
    ∃ d more, Utf8.encode n.text ++ rest = d :: more ∧ Utf8.encode n.unsigned ++ rest = d :: more ∧
      isDigit d = true := by
  obtain ⟨d, ds, digit, split⟩ := Record.decimal_bytes n.whole
  refine ⟨d, ds ++ (Utf8.encode n.scale ++ rest), ?_, ?_, digit⟩
  · rw [NumberText.text, if_neg (by rw [positive]; decide), NumberText.unsigned, Utf8.encode_append, split,
      List.append_assoc, List.cons_append]
  · rw [NumberText.unsigned, Utf8.encode_append, split, List.append_assoc, List.cons_append]

theorem encode_list (inside : Space) (es : Elements) (rest : Bytes) :
    Utf8.encode (Value.list inside es).text ++ rest =
      byte '[' :: (Utf8.encode inside.text ++ (Utf8.encode (es.text true) ++ byte ']' :: rest)) := by
  rw [Value.text, encode_cons (by decide), Utf8.encode_append, Utf8.encode_append, List.cons_append,
    List.append_assoc, List.append_assoc]
  rfl

theorem encode_object (inside : Space) (ms : Members) (rest : Bytes) :
    Utf8.encode (Value.object inside ms).text ++ rest =
      byte '\x7b' :: (Utf8.encode inside.text ++ (Utf8.encode (ms.text true) ++ byte '\x7d' :: rest)) := by
  rw [Value.text, encode_cons (by decide), Utf8.encode_append, Utf8.encode_append, List.cons_append,
    List.append_assoc, List.append_assoc]
  rfl

/-- No value begins with white space or with a closing bracket. -/
theorem Value.text_cons (v : Value) (rest : Bytes) :
    ∃ b more, Utf8.encode v.text ++ rest = b :: more ∧ isSpace b = false ∧ b ≠ byte ']' ∧ b ≠ byte '\x7d' := by
  cases v with
  | null => exact ⟨_, _, rfl, by decide⟩
  | boolean value => cases value <;> exact ⟨_, _, rfl, by decide⟩
  | number n =>
    cases sign : n.negative with
    | true => exact ⟨_, _, encode_negative sign rest, by decide⟩
    | false =>
      obtain ⟨d, more, split, -, digit⟩ := encode_positive sign rest
      exact ⟨d, more, split, Record.isSpace_of_isDigit digit, ne_of_isDigit digit rfl, ne_of_isDigit digit rfl⟩
  | string ps => exact ⟨_, _, encode_literal ps rest, by decide⟩
  | list inside es => exact ⟨_, _, encode_list inside es rest, by decide⟩
  | object inside ms => exact ⟨_, _, encode_object inside ms rest, by decide⟩

theorem skipSpace_value (w : Space) (v : Value) (rest : Bytes) :
    skipSpace (Utf8.encode w.text ++ (Utf8.encode v.text ++ rest)) = Utf8.encode v.text ++ rest := by
  obtain ⟨b, more, split, not_space, -⟩ := v.text_cons rest
  rw [skipSpace_text, split, skipSpace_cons not_space]

private theorem endsNumber_space (w : Space) {s : Bytes} (ends : EndsNumber s) :
    EndsNumber (Utf8.encode w.text ++ s) := by
  cases w with
  | nil => exact ends
  | cons b w => cases b <;> exact Record.endsNumber_cons _ (by decide)

theorem encode_elements (before : Space) (v : Value) (after : Space) (es : Elements) (s : Bytes) :
    Utf8.encode ((Elements.more before v after es).text true) ++ s =
      Utf8.encode before.text ++ (Utf8.encode v.text ++
        (Utf8.encode after.text ++ (Utf8.encode (es.text false) ++ s))) := by
  simp only [Elements.text, if_true, List.nil_append, Utf8.encode_append, List.append_assoc]

theorem encode_comma_elements (before : Space) (v : Value) (after : Space) (es : Elements) (s : Bytes) :
    Utf8.encode ((Elements.more before v after es).text false) ++ s =
      byte ',' :: (Utf8.encode ((Elements.more before v after es).text true) ++ s) := by
  simp only [Elements.text, if_true, Bool.false_eq_true, if_false, List.nil_append, List.append_assoc]
  rfl

theorem encode_members (before : Space) (key : Literal) (afterKey beforeValue : Space) (v : Value) (after : Space)
    (ms : Members) (s : Bytes) :
    Utf8.encode ((Members.more before key afterKey beforeValue v after ms).text true) ++ s =
      Utf8.encode before.text ++ (byte '\x22' :: (Utf8.encode key.body ++ (Utf8.encode afterKey.text ++
        (byte ':' :: (Utf8.encode beforeValue.text ++ (Utf8.encode v.text ++
          (Utf8.encode after.text ++ (Utf8.encode (ms.text false) ++ s)))))))) := by
  simp only [Members.text, if_true, List.nil_append, Utf8.encode_append, List.append_assoc, encode_literal,
    encode_cons (c := ':') (by decide), List.cons_append]

theorem encode_comma_members (before : Space) (key : Literal) (afterKey beforeValue : Space) (v : Value)
    (after : Space) (ms : Members) (s : Bytes) :
    Utf8.encode ((Members.more before key afterKey beforeValue v after ms).text false) ++ s =
      byte ',' :: (Utf8.encode ((Members.more before key afterKey beforeValue v after ms).text true) ++ s) := by
  simp only [Members.text, if_true, Bool.false_eq_true, if_false, List.nil_append, List.append_assoc]
  rfl

theorem endsNumber_elements (after : Space) (es : Elements) (rest : Bytes) :
    EndsNumber (Utf8.encode after.text ++ (Utf8.encode (es.text false) ++ byte ']' :: rest)) := by
  refine endsNumber_space after ?_
  cases es with
  | none => exact Record.endsNumber_cons _ (by decide)
  | more before v after es =>
    rw [encode_comma_elements]
    exact Record.endsNumber_cons _ (by decide)

theorem endsNumber_members (after : Space) (ms : Members) (rest : Bytes) :
    EndsNumber (Utf8.encode after.text ++ (Utf8.encode (ms.text false) ++ byte '\x7d' :: rest)) := by
  refine endsNumber_space after ?_
  cases ms with
  | none => exact Record.endsNumber_cons _ (by decide)
  | more before key afterKey beforeValue v after ms =>
    rw [encode_comma_members]
    exact Record.endsNumber_cons _ (by decide)

/-- After a value, a comma is read and more has to follow, or the closing bracket is. -/
theorem scanSeparator_comma (close : UInt8) (ended expected : Cause) (after : Space) (s : Bytes) :
    scanSeparator close ended expected (Utf8.encode after.text ++ byte ',' :: s) = .ok (true, s) := by
  rw [scanSeparator, skipSpace_text]
  rfl

private theorem scanSeparator_close (close : UInt8) (closing : isSpace close = false) (other : close ≠ byte ',')
    (ended expected : Cause) (after : Space) (s : Bytes) :
    scanSeparator close ended expected (Utf8.encode after.text ++ close :: s) = .ok (false, s) := by
  rw [scanSeparator, skipSpace_text, skipSpace_cons closing]
  simp only [other, if_false, if_true]

private theorem skipKey_text (before : Space) (key : Literal) (afterKey : Space) (s : Bytes) :
    skipKey (Utf8.encode before.text ++ (byte '\x22' :: (Utf8.encode key.body ++
      (Utf8.encode afterKey.text ++ byte ':' :: s)))) = .ok s := by
  have opening (s : Bytes) : skipSpace (byte '\x22' :: s) = byte '\x22' :: s := rfl
  have colon : skipSpace (byte ':' :: s) = byte ':' :: s := rfl
  simp only [skipKey, skipSpace_text, opening, ne_eq, not_true_eq_false, if_false, skipString_body, bind,
    Except.bind, colon, if_true]
  rfl

section Steps

variable {fuel : Nat} {s r : Bytes}

private theorem skipValueWith_list (opens : skipSpace s = byte '[' :: r) :
    skipValueWith (fuel + 1) s =
      match skipSpace r with
      | [] => .error (faultPast .endInList [])
      | c :: after => if c = byte ']' then .ok after else skipElements fuel (c :: after) := by
  rw [skipValueWith, opens]
  rfl

private theorem skipValueWith_object (opens : skipSpace s = byte '\x7b' :: r) :
    skipValueWith (fuel + 1) s =
      match skipSpace r with
      | [] => .error (faultPast .endInObject [])
      | c :: after => if c = byte '\x7d' then .ok after else skipMembers fuel (c :: after) := by
  rw [skipValueWith, opens]
  rfl

private theorem skipValueWith_number {d : UInt8} (opens : skipSpace s = d :: r) (digit : isDigit d = true) :
    skipValueWith (fuel + 1) s = skipNumber (d :: r) := by
  have other {b : UInt8} (no_digit : isDigit b = false) : d ≠ b := ne_of_isDigit digit no_digit
  rw [skipValueWith, opens]
  simp only [other (b := byte 'n') rfl, other (b := byte 't') rfl, other (b := byte 'f') rfl,
    other (b := byte '-') rfl, decide_false, Bool.or_self, Bool.false_eq_true, if_false, digit, if_true]

private theorem skipElements_skipSpace : skipElements (fuel + 2) (skipSpace s) = skipElements (fuel + 2) s := by
  rw [skipElements, skipElements, skipValueWith, skipValueWith, skipSpace_skipSpace]

private theorem skipMembers_skipSpace : skipMembers (fuel + 1) (skipSpace s) = skipMembers (fuel + 1) s := by
  rw [skipMembers, skipMembers, skipKey, skipKey, skipSpace_skipSpace]

end Steps

theorem Value.length_pos (v : Value) : 0 < v.text.length := by
  cases v with
  | null => exact Nat.succ_pos _
  | boolean value => cases value <;> exact Nat.succ_pos _
  | number n =>
    obtain ⟨d, ds, split, -⟩ := decimal_cons n.whole
    rw [Value.text, NumberText.text, NumberText.unsigned, split]
    split <;> exact Nat.succ_pos _
  | string ps => exact Nat.succ_pos _
  | list inside es => exact Nat.succ_pos _
  | object inside ms => exact Nat.succ_pos _

mutual

-- The recursion is that of the three functions, on the fuel: an opening bracket takes one unit for its value and
-- one for the first element or member.

/-- White space and a value are skipped with two units of fuel for each character of the value. -/
theorem skipValueWith_text (v : Value) (before : Space) (fuel : Nat) (enough : 2 * v.text.length ≤ fuel)
    {rest : Bytes} (ends : EndsNumber rest) :
    skipValueWith fuel (Utf8.encode before.text ++ (Utf8.encode v.text ++ rest)) = .ok rest := by
  have opens := skipSpace_value before v rest
  have some_text := v.length_pos
  obtain ⟨fuel, rfl⟩ : ∃ n, fuel = n + 1 := ⟨fuel - 1, by omega⟩
  cases v with
  | null =>
    rw [skipValueWith, opens]
    rfl
  | boolean value => cases value <;> rw [skipValueWith, opens] <;> rfl
  | number n =>
    rw [Value.text] at opens ⊢
    cases sign : n.negative with
    | true =>
      rw [encode_negative sign rest] at opens
      rw [skipValueWith, encode_negative sign rest, opens]
      exact skipNumber_unsigned n ends
    | false =>
      obtain ⟨d, more, text, unsigned, digit⟩ := encode_positive sign rest
      rw [text] at opens ⊢
      rw [skipValueWith_number opens digit, ← unsigned, skipNumber_unsigned n ends]
  | string ps =>
    rw [Value.text, encode_literal] at opens ⊢
    rw [skipValueWith, opens]
    exact skipString_body ps rest
  | list inside es =>
    rw [encode_list] at opens ⊢
    rw [skipValueWith_list opens, skipSpace_text]
    cases es with
    | none => rfl
    | more before v after es =>
      have long : 2 * ((Elements.more before v after es).text true).length + 1 ≤ fuel := by
        simp only [Value.text, List.length_cons, List.length_append] at enough
        omega
      have skipped := skipElements_text before v after es fuel long rest
      have first := skipSpace_value before v
        (Utf8.encode after.text ++ (Utf8.encode (es.text false) ++ byte ']' :: rest))
      obtain ⟨c, more, split, -, not_close, -⟩ := v.text_cons
        (Utf8.encode after.text ++ (Utf8.encode (es.text false) ++ byte ']' :: rest))
      rw [← encode_elements, split] at first
      obtain ⟨fuel, rfl⟩ : ∃ n, fuel = n + 2 := ⟨fuel - 2, by
        simp only [Elements.text, List.length_append] at long
        have := v.length_pos
        omega⟩
      rw [← skipElements_skipSpace, first] at skipped
      rw [first]
      simp only [not_close, if_false, skipped]
  | object inside ms =>
    rw [encode_object] at opens ⊢
    rw [skipValueWith_object opens, skipSpace_text]
    cases ms with
    | none => rfl
    | more before key afterKey beforeValue v after ms =>
      have long : 2 * ((Members.more before key afterKey beforeValue v after ms).text true).length + 1 ≤ fuel := by
        simp only [Value.text, List.length_cons, List.length_append] at enough
        omega
      have skipped := skipMembers_text before key afterKey beforeValue v after ms fuel long rest
      obtain ⟨fuel, rfl⟩ : ∃ n, fuel = n + 1 := ⟨fuel - 1, by omega⟩
      have first : ∃ more, skipSpace (Utf8.encode ((Members.more before key afterKey beforeValue v after ms).text
          true) ++ byte '\x7d' :: rest) = byte '\x22' :: more := by
        rw [encode_members, skipSpace_text]
        exact ⟨_, rfl⟩
      obtain ⟨more, first⟩ := first
      have not_close : byte '\x22' ≠ byte '\x7d' := by decide
      rw [← skipMembers_skipSpace, first] at skipped
      rw [first]
      simp only [not_close, if_false, skipped]
termination_by fuel

private theorem skipElements_text (before : Space) (v : Value) (after : Space) (es : Elements) (fuel : Nat)
    (enough : 2 * ((Elements.more before v after es).text true).length + 1 ≤ fuel) (rest : Bytes) :
    skipElements fuel (Utf8.encode ((Elements.more before v after es).text true) ++ byte ']' :: rest) =
      .ok rest := by
  obtain ⟨fuel, rfl⟩ : ∃ n, fuel = n + 1 := ⟨fuel - 1, by omega⟩
  simp only [Elements.text, if_true, List.nil_append, List.length_append] at enough
  have some_text := v.length_pos
  have skipped := skipValueWith_text v before fuel (by omega) (endsNumber_elements after es rest)
  rw [encode_elements, skipElements, skipped]
  cases es with
  | none =>
    have closed := scanSeparator_close (byte ']') rfl (by decide) .endInList .expectedListComma after rest
    simp only [Elements.text, Utf8.encode_nil, List.nil_append, bind, Except.bind, closed, Bool.false_eq_true,
      if_false]
    rfl
  | more before' v' after' es =>
    have again := skipElements_text before' v' after' es fuel (by
      simp only [Elements.text, if_true, Bool.false_eq_true, if_false, List.nil_append, List.length_append,
        List.length_cons] at enough ⊢
      omega) rest
    simp only [encode_comma_elements, bind, Except.bind, scanSeparator_comma, if_true, again]
termination_by fuel

private theorem skipMembers_text (before : Space) (key : Literal) (afterKey beforeValue : Space) (v : Value)
    (after : Space) (ms : Members) (fuel : Nat)
    (enough : 2 * ((Members.more before key afterKey beforeValue v after ms).text true).length + 1 ≤ fuel)
    (rest : Bytes) :
    skipMembers fuel
        (Utf8.encode ((Members.more before key afterKey beforeValue v after ms).text true) ++ byte '\x7d' :: rest) =
      .ok rest := by
  obtain ⟨fuel, rfl⟩ : ∃ n, fuel = n + 1 := ⟨fuel - 1, by omega⟩
  simp only [Members.text, if_true, List.nil_append, List.length_append, List.length_cons] at enough
  have skipped := skipValueWith_text v beforeValue fuel (by omega) (endsNumber_members after ms rest)
  rw [encode_members, skipMembers, skipKey_text]
  cases ms with
  | none =>
    have closed :=
      scanSeparator_close (byte '\x7d') rfl (by decide) .endInObject .expectedObjectComma after rest
    simp only [Members.text, Utf8.encode_nil, List.nil_append] at skipped
    simp only [Members.text, Utf8.encode_nil, List.nil_append, bind, Except.bind, skipped, closed,
      Bool.false_eq_true, if_false]
    rfl
  | more before' key' afterKey' beforeValue' v' after' ms =>
    have again := skipMembers_text before' key' afterKey' beforeValue' v' after' ms fuel (by
      simp only [Members.text, if_true, Bool.false_eq_true, if_false, List.nil_append, List.length_append,
        List.length_cons] at enough ⊢
      omega) rest
    rw [encode_comma_members] at skipped
    simp only [encode_comma_members, bind, Except.bind, skipped, scanSeparator_comma, if_true, again]
termination_by fuel

end

/-- White space and a value of any kind are skipped, up to what follows them. -/
theorem skipValue_text (before : Space) (v : Value) {rest : Bytes} (ends : EndsNumber rest) :
    skipValue (Utf8.encode before.text ++ (Utf8.encode v.text ++ rest)) = .ok rest := by
  have bytes := length_le_encode v.text
  refine skipValueWith_text v before _ ?_ ends
  simp only [List.length_append]
  omega

end ClusterRegister.Json
