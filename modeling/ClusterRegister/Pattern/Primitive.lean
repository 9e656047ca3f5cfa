import ClusterRegister.Pattern.Expression
import ClusterRegister.Text.Blank

/-!
# Primitives

The smallest pieces of an expression, which may be written with a backslash. What is read is taken from
the head of a text; what is left of the text comes with it.
-/

namespace ClusterRegister.Pattern

open ClusterRegister.Text

/-- A piece that is written with a backslash. -/
inductive Primitive
  | literal (l : Literal)
  | anchor
  | boundary
  | shorthand (negated : Bool)
deriving DecidableEq, Repr

/-- A text without the blanks and comments at its head. A comment reaches from a number sign to the end of
its line; the text starts in one or not. -/
def skipFrom (inComment : Bool) : List Char → List Char
  | [] => []
  | c :: s =>
    if inComment then skipFrom (c ≠ '\n') s
    else if isBlank c then skipFrom false s
    else if c = '#' then skipFrom true s
    else c :: s

/-- A text without what free spacing allows at its head. -/
def skip (freeSpacing : Bool) (s : List Char) : List Char :=
  if freeSpacing then skipFrom false s else s

def digitValue? (c : Char) : Option Nat :=
  if c.isDigit then some (c.toNat - 0x30)
  else if 'a' ≤ c && c ≤ 'f' then some (c.toNat - 0x57)
  else if 'A' ≤ c && c ≤ 'F' then some (c.toNat - 0x37)
  else none

/-- Reads hexadecimal digits, each of which may be spaced, after those of a value. -/
def readDigits (freeSpacing : Bool) : Nat → Nat → List Char → Option (Nat × List Char)
  | 0, value, s => some (value, skip freeSpacing s)
  | count + 1, value, s =>
    match skip freeSpacing s with
    | [] => none
    | c :: rest => do
      let digit ← digitValue? c
      readDigits freeSpacing count (value * 16 + digit) rest

/-- Reads the character whose code point has so many hexadecimal digits. -/
def readCode (freeSpacing : Bool) (count : Nat) (s : List Char) : Option (Primitive × List Char) := do
  let (code, rest) ← readDigits freeSpacing count 0 s
  if code.isValidChar then pure (.literal ⟨Char.ofNat code, count == 2⟩, rest) else none

/-- The control characters that have a letter of their own. -/
def control? (c : Char) : Option Char :=
  [('a', '\x07'), ('f', '\x0C'), ('t', '\t'), ('n', '\n'), ('r', '\r'), ('v', '\x0B')].lookup c

/-- Reads what follows a backslash. An ASCII character that is neither letter nor digit stands for itself.
Properties of characters and references to groups are not supported. -/
def readEscape (freeSpacing : Bool) : List Char → Option (Primitive × List Char)
  | [] => none
  | c :: s =>
    if c = 'x' then readCode freeSpacing 2 s
    else if c = 'u' then readCode freeSpacing 4 s
    else if c = 'U' then readCode freeSpacing 8 s
    else if ['d', 's', 'w'].contains c then some (.shorthand false, s)
    else if ['D', 'S', 'W'].contains c then some (.shorthand true, s)
    else if ['A', 'z'].contains c then some (.anchor, s)
    else if ['b', 'B', '<', '>'].contains c then some (.boundary, s)
    else
      match control? c with
      | some control => some (.literal ⟨control, false⟩, s)
      | none =>
        if c.toNat < 128 && !c.isAlphanum then some (.literal ⟨c, false⟩, s) else none

end ClusterRegister.Pattern
