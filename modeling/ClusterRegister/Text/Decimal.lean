/-!
# Decimal text

Numbers in decimal digits, and the port numbers that operators type.
-/

namespace ClusterRegister.Text

/-- The digits of a number, without leading zeros. -/
def decimal (n : Nat) : List Char := Nat.toDigits 10 n

/-- The digits of a number, with zeros in front up to a width. -/
def decimalPadded (width n : Nat) : List Char :=
  List.replicate (width - (decimal n).length) '0' ++ decimal n

/-- The digits of a number as a string. -/
def natText (n : Nat) : String := String.ofList (decimal n)

/-- An integer in digits, after a minus sign if it is negative. -/
def intText (z : Int) : String :=
  String.ofList (if z < 0 then '-' :: decimal z.natAbs else decimal z.natAbs)

/-- The number that a sequence of digits denotes. -/
def decimalValue (cs : List Char) : Nat := Nat.ofDigitChars 10 cs 0

theorem decimalValue_decimal (n : Nat) : decimalValue (decimal n) = n :=
  Nat.ofDigitChars_toDigits (by decide) (by decide)

/-- Digits, at least one, after at most one plus sign: the number that they denote. -/
def unsigned? (cs : List Char) : Option Nat :=
  let ds := match cs with
    | '+' :: ds => ds
    | ds => ds
  if ds ≠ [] ∧ ds.all Char.isDigit then some (decimalValue ds) else none

/-- A port as an operator may write it: an unsigned number from 1 to 65535. -/
def port? (cs : List Char) : Option UInt16 :=
  match unsigned? cs with
  | some n => if 0 < n ∧ n < 65536 then some (UInt16.ofNat n) else none
  | none => none

/-- A text without a sign at its head. -/
def dropSign (cs : List Char) : List Char :=
  match cs with
  | '+' :: rest => rest
  | '-' :: rest => rest
  | _ => cs

/-- What may follow the digits of a number: nothing, or an exponent with a sign or without. -/
def isExponent (cs : List Char) : Bool :=
  match cs with
  | [] => true
  | c :: rest => (c = 'e' || c = 'E') && dropSign rest ≠ [] && (dropSign rest).all Char.isDigit

/-- A number as it may be written: a sign, digits with a point anywhere, at least one, and an exponent, or
a name of what is not finite. Only digits are required. -/
def isNumber (cs : List Char) : Bool :=
  let body := dropSign cs
  let whole := body.takeWhile Char.isDigit
  let rest := body.dropWhile Char.isDigit
  let (fraction, rest) := match rest with
    | '.' :: after => (after.takeWhile Char.isDigit, after.dropWhile Char.isDigit)
    | _ => ([], rest)
  [['i', 'n', 'f'], ['i', 'n', 'f', 'i', 'n', 'i', 't', 'y'], ['n', 'a', 'n']].contains
      (body.map Char.toLower) ||
    (whole ++ fraction ≠ [] && isExponent rest)

end ClusterRegister.Text
