import ClusterRegister.Number.Binary64
import ClusterRegister.Text.Decimal

/-!
# Shortest decimal text

The fewest decimal digits that read back as a given double precision number, and of those the nearest,
written positionally or with an exponent.
-/

namespace ClusterRegister.Number

open ClusterRegister.Text

/-- Decimal digits with a scale: the number `digits * 10 ^ exponent`. -/
structure Decimal where
  digits : Nat
  exponent : Int
deriving DecidableEq, Repr

/-- The ends of the interval of reals that round to a positive number, and the number itself, in
units of a quarter of its last place. -/
def roundingInterval (x : Binary64) : Nat × Nat × Nat :=
  let m := 4 * x.significand
  if x.significand = Binary64.hiddenBit ∧ -1074 < x.exponent then (m - 1, m, m + 2) else (m - 2, m, m + 2)

/-- The unit of `roundingInterval` divided by `10 ^ k`, as a quotient of natural numbers. -/
def unitOver (x : Binary64) (k : Int) : Nat × Nat :=
  let e := x.exponent - 2
  let num := if 0 ≤ e then Nat.pow 2 e.toNat else 1
  let den := if 0 ≤ e then 1 else Nat.pow 2 (-e).toNat
  if 0 ≤ k then (num, den * Nat.pow 10 k.toNat) else (num * Nat.pow 10 (-k).toNat, den)

/-- The multiple of `10 ^ k` that reads back as a positive number and is nearest to it, if there is
one. The ends of the rounding interval belong to it when the significand is even. -/
def candidate? (x : Binary64) (k : Int) : Option Nat :=
  let (num, den) := unitOver x k
  let (lo, mid, hi) := roundingInterval x
  let reads (c : Nat) : Bool :=
    if x.significand % 2 = 0 then lo * num ≤ c * den && c * den ≤ hi * num
    else lo * num < c * den && c * den < hi * num
  let below := mid * num / den
  let toBelow := mid * num - below * den
  let toAbove := (below + 1) * den - mid * num
  let belowFirst := toBelow < toAbove || (toBelow = toAbove && below % 2 = 0)
  let (near, far) := if belowFirst then (below, below + 1) else (below + 1, below)
  if reads near then some near else if reads far then some far else none

/-- The exponent of the leading decimal digit of a positive number. -/
def leadingExponent (x : Binary64) : Int :=
  let (num, den) := x.quotient
  if den ≤ num then ((decimal (num / den)).length : Int) - 1
  else
    match (List.range 325).find? (fun j => den ≤ num * Nat.pow 10 (j + 1)) with
    | some j => -(j + 1)
    | none => -325

/-- The shortest digits of a positive number, by trying 1, 2, up to 17 digits. -/
def shortest (x : Binary64) : Decimal :=
  let lead := leadingExponent x
  let tried := (List.range 17).findSome? fun (n : Nat) =>
    (candidate? x (lead - n)).map fun c => (⟨c, lead - n⟩ : Decimal)
  tried.getD ⟨0, 0⟩

/-- A decimal number without trailing zeros among its digits. -/
def Decimal.trimmed : Nat → Decimal → Decimal
  | 0, d => d
  | fuel + 1, d =>
    if d.digits % 10 = 0 ∧ d.digits ≠ 0 then Decimal.trimmed fuel ⟨d.digits / 10, d.exponent + 1⟩ else d

/-- Numbers whose leading digit stands between the fifth decimal place and the sixteenth digit before
the point are written positionally, with at least one digit on either side of the point; others with
one digit before the point and a signed exponent. -/
def decimalText (d : Decimal) : List Char :=
  let d := d.trimmed 20
  let ds := decimal d.digits
  let lead : Int := d.exponent + ds.length - 1
  if -5 ≤ lead ∧ lead ≤ 15 then
    if 0 ≤ d.exponent then ds ++ List.replicate d.exponent.toNat '0' ++ ['.', '0']
    else if 0 ≤ lead then
      ds.take (lead.toNat + 1) ++ ['.'] ++ ds.drop (lead.toNat + 1)
    else ['0', '.'] ++ List.replicate (-lead - 1).toNat '0' ++ ds
  else
    let mantissa := match ds with
      | [] => []
      | [d] => [d]
      | d :: rest => d :: '.' :: rest
    let sign := if 0 ≤ lead then '+' else '-'
    mantissa ++ ['e', sign] ++ decimal lead.natAbs

def Binary64.text (x : Binary64) : List Char :=
  if x.significand = 0 then ['0', '.', '0'] else decimalText (shortest x)

end ClusterRegister.Number
