import ClusterRegister.Json.Fault

/-!
# The pieces of JSON text

White space, words, strings and numbers at the head of a byte sequence. Each reading gives a value and
the bytes after it, or a fault. A fault that is seen before its byte is read counts that byte as read.
-/

namespace ClusterRegister.Json

open ClusterRegister.Number ClusterRegister.Text

/-- The byte of an ASCII character. -/
def byte (c : Char) : UInt8 := c.toNat.toUInt8

/-- White space between the pieces of a text. -/
def isSpace (b : UInt8) : Bool := b = 0x20 || b = 0x0A || b = 0x09 || b = 0x0D

/-- A text without the white space at its head. -/
def skipSpace (s : Bytes) : Bytes := s.dropWhile isSpace

def faultAt (cause : Cause) (s : Bytes) : Fault := ⟨cause, s.length⟩

/-- A fault just after the first byte of a text, or at its end if it is empty. -/
def faultPast (cause : Cause) (s : Bytes) : Fault := ⟨cause, s.length - 1⟩

/-- The rest of a text after a word whose first letter is read already. -/
def scanWord : List UInt8 → Bytes → Except Fault Bytes
  | [], s => .ok s
  | _ :: _, [] => .error (faultAt .endInValue [])
  | w :: word, b :: s => if b = w then scanWord word s else .error (faultAt .expectedWord s)

/-- What follows the first letter of `null`, `true` and `false`. -/
def wordTail (first : UInt8) : Bytes :=
  Utf8.encode
    (if first = byte 'n' then ['u', 'l', 'l']
    else if first = byte 't' then ['r', 'u', 'e']
    else ['a', 'l', 's', 'e'])

def hexValue (b : UInt8) : Option Nat :=
  if byte '0' ≤ b && b ≤ byte '9' then some (b.toNat - 0x30)
  else if byte 'a' ≤ b && b ≤ byte 'f' then some (b.toNat - 0x57)
  else if byte 'A' ≤ b && b ≤ byte 'F' then some (b.toNat - 0x37)
  else none

def hexQuad (a b c d : UInt8) : Option Nat := do
  let a ← hexValue a
  let b ← hexValue b
  let c ← hexValue c
  let d ← hexValue d
  pure (((a * 16 + b) * 16 + c) * 16 + d)

/-- The character that a backslash and one more character stand for. -/
def shortEscape (b : UInt8) : Option UInt8 :=
  if b = byte '\x22' || b = byte '\\' || b = byte '/' then some b
  else if b = byte 'b' then some 0x08
  else if b = byte 'f' then some 0x0C
  else if b = byte 'n' then some 0x0A
  else if b = byte 'r' then some 0x0D
  else if b = byte 't' then some 0x09
  else none

/-- The first half of a surrogate pair. -/
def isHighSurrogate (n : Nat) : Bool := 0xD800 ≤ n && n ≤ 0xDBFF

/-- The second half of a surrogate pair. -/
def isLowSurrogate (n : Nat) : Bool := 0xDC00 ≤ n && n ≤ 0xDFFF

/-- The character of a surrogate pair. -/
def surrogatePair (high low : Nat) : Char :=
  Char.ofNat ((high - 0xD800) * 1024 + (low - 0xDC00) + 0x10000)

/-- What a string stands for, as bytes, and the rest after its closing quote; the opening quote is
read already. -/
def scanContent : Bytes → Except Fault (Bytes × Bytes)
  | [] => .error (faultAt .endInString [])
  | b :: s =>
    if b = byte '\x22' then .ok ([], s)
    else if b = byte '\\' then
      match s with
      | [] => .error (faultAt .endInString [])
      | e :: s =>
        if e = byte 'u' then
          match s with
          | h₁ :: h₂ :: h₃ :: h₄ :: s =>
            match hexQuad h₁ h₂ h₃ h₄ with
            | none => .error (faultAt .badEscape s)
            | some n =>
              if isLowSurrogate n then .error (faultAt .loneSurrogate s)
              else if isHighSurrogate n then
                match s with
                | [] => .error (faultAt .endInString [])
                | p :: s =>
                  if p = byte '\\' then
                    match s with
                    | [] => .error (faultAt .endInString [])
                    | q :: s =>
                      if q = byte 'u' then
                        match s with
                        | l₁ :: l₂ :: l₃ :: l₄ :: s =>
                          match hexQuad l₁ l₂ l₃ l₄ with
                          | none => .error (faultAt .badEscape s)
                          | some m =>
                            if isLowSurrogate m then do
                              let (content, rest) ← scanContent s
                              pure (String.utf8EncodeChar (surrogatePair n m) ++ content, rest)
                            else .error (faultAt .loneSurrogate s)
                        | _ => .error (faultAt .endInString [])
                      else .error (faultAt .unpairedSurrogate s)
                  else .error (faultAt .unpairedSurrogate s)
              else do
                let (content, rest) ← scanContent s
                pure (String.utf8EncodeChar (Char.ofNat n) ++ content, rest)
          | _ => .error (faultAt .endInString [])
        else
          match shortEscape e with
          | none => .error (faultAt .badEscape s)
          | some c => do
            let (content, rest) ← scanContent s
            pure (c :: content, rest)
    else if b < 0x20 then .error (faultAt .controlCharacter s)
    else do
      let (content, rest) ← scanContent s
      pure (b :: content, rest)

/-- A string whose opening quote is read already. What it stands for has to be well-formed UTF-8; the
fault lies as many bytes before the end of the string as there are from the first ill-formed one on. -/
def scanString (s : Bytes) : Except Fault (String × Bytes) := do
  let (content, rest) ← scanContent s
  match Utf8.decode? content with
  | some cs => pure (String.ofList cs, rest)
  | none => throw ⟨.badUtf8, rest.length + (content.length - Utf8.wellFormedLength content)⟩

/-- The rest after a string whose opening quote is read already, and whose content does not matter:
neither surrogates nor bytes beyond ASCII are looked at. -/
def skipString : Bytes → Except Fault Bytes
  | [] => .error (faultAt .endInString [])
  | b :: s =>
    if b = byte '\x22' then .ok s
    else if b = byte '\\' then
      match s with
      | [] => .error (faultAt .endInString [])
      | e :: s =>
        if e = byte 'u' then
          match s with
          | h₁ :: h₂ :: h₃ :: h₄ :: s =>
            match hexQuad h₁ h₂ h₃ h₄ with
            | none => .error (faultAt .badEscape s)
            | some _ => skipString s
          | _ => .error (faultAt .endInString [])
        else
          match shortEscape e with
          | none => .error (faultAt .badEscape s)
          | some _ => skipString s
    else if b < 0x20 then .error (faultAt .controlCharacter (b :: s))
    else skipString s

def isDigit (b : UInt8) : Bool := byte '0' ≤ b && b ≤ byte '9'

def digitValue (b : UInt8) : Nat := b.toNat - 0x30

/-- A number as read: integers of 64 bits are exact, all others are rounded. -/
inductive Numeral
  | integer (value : Int)
  | float (negative : Bool) (value : Binary64)
deriving DecidableEq, Repr

def Numeral.found : Numeral → Found
  | .integer n => .integer n
  | .float negative x => .float negative x

/-- Takes digits into a significand as long as it stays below `2 ^ 64`: the significand and the number
of digits taken. -/
def gather (significand taken : Nat) : Bytes → Nat × Nat
  | [] => (significand, taken)
  | d :: ds =>
    let next := significand * 10 + digitValue d
    if next < UInt64.size then gather next (taken + 1) ds else (significand, taken)

/-- A significand with a decimal exponent as a number that is not an integer; its text is read. -/
def roundedNumeral (negative : Bool) (significand : Nat) (exponent : Int) (rest : Bytes) :
    Except Fault (Numeral × Bytes) :=
  match Binary64.ofDecimal? significand exponent with
  | some x => .ok (.float negative x, rest)
  | none => .error (faultAt .numberTooLarge rest)

/-- Takes the digits of an exponent as long as it stays below `2 ^ 31`: the exponent and the digits
left over; if it would grow larger, none and the digits after the one too many. -/
def gatherExponent (exponent : Nat) : Bytes → Option Nat × Bytes
  | [] => (some exponent, [])
  | d :: ds =>
    let next := exponent * 10 + digitValue d
    if next < 0x80000000 then gatherExponent next ds else (none, ds)

/-- The rest of a number after the letter that starts its exponent. -/
def scanExponent (negative : Bool) (significand : Nat) (scale : Int) (s : Bytes) :
    Except Fault (Numeral × Bytes) :=
  let (down, s) := match s with
    | b :: r => if b = byte '+' then (false, r) else if b = byte '-' then (true, r) else (false, s)
    | [] => (false, s)
  match s with
  | [] => .error (faultAt .endInValue [])
  | b :: r =>
    if isDigit b then
      let rest := s.dropWhile isDigit
      match gatherExponent 0 (s.takeWhile isDigit) with
      | (some e, _) => roundedNumeral negative significand (if down then scale - e else scale + e) rest
      | (none, ds) =>
        if significand ≠ 0 && !down then .error ⟨.numberTooLarge, ds.length + rest.length⟩
        else .ok (.float negative .zero, rest)
    else .error (faultAt .badNumber r)

/-- A number after its integer part and any point: what follows may be an exponent. -/
def scanScale (negative : Bool) (significand : Nat) (scale : Int) (s : Bytes) :
    Except Fault (Numeral × Bytes) :=
  match s with
  | b :: r =>
    if b = byte 'e' || b = byte 'E' then scanExponent negative significand scale r
    else roundedNumeral negative significand scale s
  | [] => roundedNumeral negative significand scale s

/-- The rest of a number after its point. -/
def scanDecimals (negative : Bool) (significand : Nat) (scale : Int) (s : Bytes) :
    Except Fault (Numeral × Bytes) :=
  let ds := s.takeWhile isDigit
  let rest := s.dropWhile isDigit
  if ds = [] then
    .error (if s = [] then faultPast .endInValue s else faultPast .badNumber s)
  else
    let (significand, taken) := gather significand 0 ds
    scanScale negative significand (scale - taken) rest

/-- A number whose sign is read already. Without point and exponent it is an integer if it fits 64
bits, signed or unsigned; a negative zero is not one. -/
def scanNumber (negative : Bool) (s : Bytes) : Except Fault (Numeral × Bytes) :=
  match s with
  | [] => .error (faultAt .endInValue [])
  | b :: r =>
    if ¬ isDigit b then .error (faultAt .badNumber r)
    else if b = byte '0' && (r.head?.any isDigit) then .error (faultPast .badNumber r)
    else
      let ds := s.takeWhile isDigit
      let rest := s.dropWhile isDigit
      let (significand, taken) := gather 0 0 ds
      let dropped : Nat := ds.length - taken
      match rest with
      | c :: after =>
        if c = byte '.' then scanDecimals negative significand dropped after
        else if c = byte 'e' || c = byte 'E' then scanExponent negative significand dropped after
        else plain negative significand dropped rest
      | [] => plain negative significand dropped rest
where
  /-- A number of digits alone. -/
  plain (negative : Bool) (significand dropped : Nat) (rest : Bytes) :
      Except Fault (Numeral × Bytes) :=
    if dropped ≠ 0 then roundedNumeral negative significand dropped rest
    else if negative then
      if 0 < significand && significand ≤ 0x8000000000000000 then .ok (.integer (-significand), rest)
      else roundedNumeral negative significand 0 rest
    else .ok (.integer significand, rest)

/-- The rest after the exponent of a number whose value does not matter. -/
def skipExponent (s : Bytes) : Except Fault Bytes :=
  let s := match s with
    | b :: r => if b = byte '+' || b = byte '-' then r else s
    | [] => s
  match s with
  | [] => .error (faultAt .badNumber [])
  | b :: r => if isDigit b then .ok (r.dropWhile isDigit) else .error (faultAt .badNumber r)

/-- The rest after a number whose value does not matter and whose sign is read already. -/
def skipNumber (s : Bytes) : Except Fault Bytes :=
  match s with
  | [] => .error (faultAt .badNumber [])
  | b :: r =>
    if ¬ isDigit b then .error (faultAt .badNumber r)
    else if b = byte '0' && (r.head?.any isDigit) then .error (faultPast .badNumber r)
    else
      match s.dropWhile isDigit with
      | [] => .ok []
      | c :: after =>
        if c = byte '.' then
          match after with
          | d :: _ =>
            if isDigit d then
              match after.dropWhile isDigit with
              | [] => .ok []
              | e :: beyond =>
                if e = byte 'e' || e = byte 'E' then skipExponent beyond else .ok (e :: beyond)
            else .error (faultPast .badNumber after)
          | [] => .error (faultPast .badNumber after)
        else if c = byte 'e' || c = byte 'E' then skipExponent after
        else .ok (c :: after)

end ClusterRegister.Json
