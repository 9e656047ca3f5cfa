import ClusterRegister.Pattern.Primitive

/-!
# Sets in brackets

A set lists characters, ranges and classes. The operators `&&`, `--` and `~~` combine what stands before
them with what stands after them, from left to right, and sets may be nested.
-/

namespace ClusterRegister.Pattern

open ClusterRegister.Text

def Primitive.item? : Primitive → Option Item
  | .literal l => some (.literal l)
  | .shorthand negated => some (.shorthand negated)
  | .anchor => none
  | .boundary => none

def Primitive.literal? : Primitive → Option Literal
  | .literal l => some l
  | _ => none

/-- Reads a primitive in brackets, where any character may stand for itself. -/
def readMember (freeSpacing : Bool) : List Char → Option (Primitive × List Char)
  | [] => none
  | '\\' :: s => readEscape freeSpacing s
  | c :: s => some (.literal ⟨c, false⟩, s)

/-- The next character that is not spacing. Of a comment only its number sign is passed over. -/
def peek (freeSpacing : Bool) (s : List Char) : Option Char :=
  if freeSpacing then
    match trimStart s with
    | '#' :: comment => (trimStart comment).head?
    | rest => rest.head?
  else s.head?

/-- Reads a member or a range of them. A hyphen before another one or before the closing bracket makes no
range. -/
def readRange (freeSpacing : Bool) (s : List Char) : Option (Item × List Char) := do
  let (first, s) ← readMember freeSpacing s
  match skip freeSpacing s with
  | [] => none
  | c :: after =>
    if c ≠ '-' ∨ peek freeSpacing after = some ']' ∨ peek freeSpacing after = some '-' then
      pure (← first.item?, c :: after)
    else
      let (last, s) ← readMember freeSpacing (skip freeSpacing after)
      let first ← first.literal?
      let last ← last.literal?
      if first.char ≤ last.char then pure (.range first last, s) else none

def classNames : List String :=
  ["alnum", "alpha", "ascii", "blank", "cntrl", "digit", "graph", "lower", "print", "punct", "space",
    "upper", "word", "xdigit"]

/-- Reads a named class whose opening bracket is read already. -/
def readNamed : List Char → Option (Item × List Char)
  | ':' :: s =>
    let (negated, s) := match s with
      | '^' :: rest => (true, rest)
      | _ => (false, s)
    match s.dropWhile (· ≠ ':') with
    | ':' :: ']' :: rest =>
      if classNames.contains (String.ofList (s.takeWhile (· ≠ ':'))) then some (.named negated, rest)
      else none
    | _ => none
  | _ => none

/-- A set that is not closed yet: what stands before its last operator, and the items after that, the
last one first. -/
structure OpenSet where
  negated : Bool
  left : Option Item
  items : List Item

namespace OpenSet

/-- What stands in the brackets so far. -/
def content (o : OpenSet) : Item :=
  let right : Item := match o.items with
    | [] => .nothing
    | [i] => i
    | items => .union items.reverse
  match o.left with
  | none => right
  | some left => .combined left right

def close (o : OpenSet) : Item := .set o.negated o.content

def add (o : OpenSet) (i : Item) : OpenSet := { o with items := i :: o.items }

def operate (o : OpenSet) : OpenSet := ⟨o.negated, some o.content, []⟩

end OpenSet

/-- Reads the hyphens at the head of a set, each of which stands for itself. -/
def readHyphens (freeSpacing : Bool) : Nat → OpenSet → List Char → OpenSet × List Char
  | fuel + 1, o, '-' :: s =>
    readHyphens freeSpacing fuel (o.add (.literal ⟨'-', false⟩)) (skip freeSpacing s)
  | _, o, s => (o, s)

/-- Reads the head of a set whose opening bracket is read already. A closing bracket right there stands
for itself. -/
def readHead (freeSpacing : Bool) (s : List Char) : OpenSet × List Char :=
  let (negated, s) := match skip freeSpacing s with
    | '^' :: rest => (true, skip freeSpacing rest)
    | rest => (false, rest)
  match readHyphens freeSpacing s.length ⟨negated, none, []⟩ s with
  | (o, s) =>
    match o.items, s with
    | [], ']' :: rest => (o.add (.literal ⟨']', false⟩), rest)
    | _, _ => (o, s)

/-- A text after an operator at its head. -/
def afterOperator? : List Char → Option (List Char)
  | '&' :: '&' :: s => some s
  | '-' :: '-' :: s => some s
  | '~' :: '~' :: s => some s
  | _ => none

/-- Reads the rest of a set that stands in others, of which the innermost comes first. Each step reads at
least one character and takes one unit of fuel. -/
def readItems (freeSpacing : Bool) : Nat → OpenSet → List OpenSet → List Char →
    Option (Item × List Char)
  | 0, _, _, _ => none
  | fuel + 1, o, outer, s =>
    match skip freeSpacing s with
    | [] => none
    | '[' :: rest =>
      match readNamed rest with
      | some (i, rest) => readItems freeSpacing fuel (o.add i) outer rest
      | none =>
        let (inner, rest) := readHead freeSpacing rest
        readItems freeSpacing fuel inner (o :: outer) rest
    | ']' :: rest =>
      match outer with
      | [] => some (o.close, rest)
      | up :: outer => readItems freeSpacing fuel (up.add o.close) outer rest
    | s =>
      match afterOperator? s with
      | some rest => readItems freeSpacing fuel o.operate outer rest
      | none => do
        let (i, rest) ← readRange freeSpacing s
        readItems freeSpacing fuel (o.add i) outer rest

/-- Reads a set whose opening bracket is read already. -/
def readSet (freeSpacing : Bool) (s : List Char) : Option (Item × List Char) :=
  let (o, rest) := readHead freeSpacing s
  readItems freeSpacing (rest.length + 1) o [] rest

end ClusterRegister.Pattern
