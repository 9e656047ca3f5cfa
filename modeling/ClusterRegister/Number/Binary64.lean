/-!
# Double precision numbers

Nonnegative binary64 numbers as exact products of a significand and a power of two, with arithmetic
that rounds to nearest, ties to even.
-/

namespace ClusterRegister.Number

/-- The number `significand * 2 ^ exponent`. Normal numbers have 53 significant bits; at the least
exponent, -1074, they may have fewer. -/
structure Binary64 where
  significand : Nat
  exponent : Int
deriving DecidableEq, Repr

namespace Binary64

/-- A quotient rounded to the nearest number, ties to even. -/
def divideToNearest (num den : Nat) : Nat :=
  let q := num / den
  let r := num % den
  if 2 * r < den then q
  else if den < 2 * r then q + 1
  else q + q % 2

/-- The least significand with 53 bits. -/
def hiddenBit : Nat := 0x10000000000000

/-- `num / den / 2 ^ e` as a quotient of natural numbers. -/
def scaled (num den : Nat) (e : Int) : Nat × Nat :=
  if 0 ≤ e then (num, den * Nat.pow 2 e.toNat) else (num * Nat.pow 2 (-e).toNat, den)

/-- The exponent at which a positive quotient has 53 significant bits, or the least one. -/
def exponentOf (num den : Nat) : Int :=
  let e : Int := (Nat.log2 num : Int) - Nat.log2 den - 52
  let (n, d) := scaled num den e
  max (-1074) (if n < hiddenBit * d then e - 1 else e)

/-- The number nearest to a quotient; none if that lies above the greatest finite one. -/
def ofQuotient? (num den : Nat) : Option Binary64 :=
  if num = 0 then some ⟨0, 0⟩
  else
    let e := exponentOf num den
    let (n, d) := scaled num den e
    let m := divideToNearest n d
    let rounded : Binary64 := if m = 2 * hiddenBit then ⟨hiddenBit, e + 1⟩ else ⟨m, e⟩
    if 971 < rounded.exponent then none else some rounded

/-- The value as a quotient of natural numbers. -/
def quotient (x : Binary64) : Nat × Nat :=
  if 0 ≤ x.exponent then (x.significand * Nat.pow 2 x.exponent.toNat, 1)
  else (x.significand, Nat.pow 2 (-x.exponent).toNat)

/-- The number nearest to a product. -/
def mul? (x y : Binary64) : Option Binary64 :=
  ofQuotient? (x.quotient.1 * y.quotient.1) (x.quotient.2 * y.quotient.2)

/-- The number nearest to a ratio with a positive divisor. -/
def div? (x y : Binary64) : Option Binary64 :=
  ofQuotient? (x.quotient.1 * y.quotient.2) (x.quotient.2 * y.quotient.1)

def zero : Binary64 := ⟨0, 0⟩

/-- The nearest number to a power of ten, up to the greatest finite one, `10 ^ 308`. -/
def powerOfTen (n : Nat) : Binary64 := (ofQuotient? (Nat.pow 10 n) 1).getD zero

/-- One step of scaling by a negative power of ten beyond the 308th. -/
def scaleDown : Nat → Binary64 → Nat → Binary64
  | 0, x, _ => x
  | fuel + 1, x, n =>
    if x.significand = 0 then x
    else if n ≤ 308 then (x.div? (powerOfTen n)).getD zero
    else scaleDown fuel ((x.div? (powerOfTen 308)).getD zero) (n - 308)

/-- `significand * 10 ^ exponent`, rounded after each step: the significand first, then one product or
the quotients by at most `10 ^ 308` each. None if the result is not finite. -/
def ofDecimal? (significand : Nat) (exponent : Int) : Option Binary64 := do
  let x ← ofQuotient? significand 1
  if x.significand = 0 then pure x
  else if 0 ≤ exponent then
    if exponent ≤ 308 then x.mul? (powerOfTen exponent.toNat) else none
  else pure (scaleDown ((-exponent).toNat + 1) x (-exponent).toNat)

end Binary64

end ClusterRegister.Number
