import ClusterRegister.Pattern.Brackets
import ClusterRegister.Text.Alphanumeric

/-!
# Reading expressions

Alternatives are sequences of repeated pieces. Groups may have a name or change modes; a change of modes
in parentheses of its own holds up to the end of the group around it.

Counts of repetitions, which stand in braces, are not read: no closing brace can end them where patterns
are used.
-/

namespace ClusterRegister.Pattern

open ClusterRegister.Text

/-- A change with one more mode switched, if its letter concerns a mode that is kept here. -/
def ModeChange.switch (change : ModeChange) (letter : Char) (on : Bool) : ModeChange :=
  if letter = 'i' then { change with ignoreCase := some on }
  else if letter = 'u' then { change with unicode := some on }
  else if letter = 'x' then { change with freeSpacing := some on }
  else change

def modeLetters : List Char := ['i', 'm', 's', 'U', 'u', 'R', 'x']

/-- Reads the letters of modes up to a colon or a closing parenthesis: the letters, the change and what
starts with that mark. Letters are switched on up to a hyphen, and off after it; neither letters nor the
hyphen may repeat, and the hyphen must not be the last. The letters read so far come last one first. -/
def readModes (seen : List Char) (change : ModeChange) :
    List Char → Option (List Char × ModeChange × List Char)
  | [] => none
  | c :: s =>
    if c = ':' || c = ')' then if seen.head? = some '-' then none else some (seen, change, c :: s)
    else if seen.contains c then none
    else if c = '-' then readModes (c :: seen) change s
    else if modeLetters.contains c then
      readModes (c :: seen) (change.switch c (!seen.contains '-')) s
    else none

/-- The name of a group: a letter or a low line, and then also digits, points and brackets. -/
def isGroupName : List Char → Bool
  | [] => false
  | c :: cs =>
    (c = '_' || isAlphabetic c) &&
      cs.all fun c => ['_', '.', '[', ']'].contains c || isAlphanumeric c

/-- What an opening parenthesis starts: nothing but a change of modes, or a group. -/
inductive Opening
  | modes (change : ModeChange)
  | group (change : ModeChange) (name : Option (List Char))

/-- Reads the rest of the opening of a group with a name. -/
def readGroupName (s : List Char) : Option (Opening × List Char) :=
  match s.dropWhile (· ≠ '>') with
  | [] => none
  | _ :: rest =>
    let name := s.takeWhile (· ≠ '>')
    if isGroupName name then some (.group .keep (some name), rest) else none

/-- Reads the rest of an opening after its parenthesis. -/
def readOpening (freeSpacing : Bool) (s : List Char) : Option (Opening × List Char) :=
  match skip freeSpacing s with
  | '?' :: 'P' :: '<' :: rest => readGroupName rest
  | '?' :: '<' :: rest => readGroupName rest
  | '?' :: rest =>
    match readModes [] .keep rest with
    | some (_, change, ':' :: rest) => some (.group change none, rest)
    | some (_ :: _, change, _ :: rest) => some (.modes change, rest)
    | _ => none
  | rest => some (.group .keep none, rest)

/-- The pieces of a sequence, the last one first, as one expression. -/
def sequenceOf : List Expression → Expression
  | [] => .empty
  | [e] => e
  | es => .sequence es.reverse

/-- What was read between the parentheses of a group: finished alternatives and the pieces of the current
one, the last ones first. -/
structure Branches where
  finished : List Expression
  current : List Expression

namespace Branches

def none : Branches := ⟨[], []⟩

def add (b : Branches) (e : Expression) : Branches := { b with current := e :: b.current }

def split (b : Branches) : Branches := ⟨sequenceOf b.current :: b.finished, []⟩

def close (b : Branches) : Expression :=
  match b.finished with
  | [] => sequenceOf b.current
  | _ => .alternatives b.split.finished.reverse

/-- The last piece repeated. A change of modes cannot be. -/
def repeatLast? (b : Branches) : Option Branches :=
  match b.current with
  | [] => Option.none
  | .modes _ :: _ => Option.none
  | e :: es => some { b with current := .repeated e :: es }

end Branches

/-- A group that is not closed yet: its change of modes, whether spacing is free outside of it, and what was
read before it. -/
structure OpenGroup where
  change : ModeChange
  freeSpacing : Bool
  before : Branches

def Primitive.expression : Primitive → Expression
  | .literal l => .literal l
  | .anchor => .anchor
  | .boundary => .boundary
  | .shorthand negated => .shorthand negated

/-- Reads a piece that is neither a set nor a group. -/
def readPiece (freeSpacing : Bool) : List Char → Option (Expression × List Char)
  | [] => none
  | '\\' :: s => do
    let (p, rest) ← readEscape freeSpacing s
    pure (p.expression, rest)
  | c :: s =>
    if c = '.' then some (.anyChar, s)
    else if c = '^' || c = '$' then some (.anchor, s)
    else some (.literal ⟨c, false⟩, s)

/-- A text without the question mark that makes a repetition lazy. -/
def dropLazy : List Char → List Char
  | '?' :: s => s
  | s => s

/-- Reads the rest of an expression in some groups, of which the innermost comes first, when some names are
taken. Each step reads at least one character and takes one unit of fuel. -/
def readFrom : Nat → Bool → List (List Char) → Branches → List OpenGroup → List Char →
    Option Expression
  | 0, _, _, _, _, _ => none
  | fuel + 1, freeSpacing, names, b, groups, s =>
    match skip freeSpacing s with
    | [] => if groups.isEmpty then some b.close else none
    | c :: rest =>
      if c = '(' then
        match readOpening freeSpacing rest with
        | none => none
        | some (.modes change, rest) =>
          readFrom fuel (change.freeSpacing.getD freeSpacing) names (b.add (.modes change)) groups rest
        | some (.group change name, rest) =>
          if name.any names.contains then none
          else
            readFrom fuel (change.freeSpacing.getD freeSpacing) (name.toList ++ names) .none
              (⟨change, freeSpacing, b⟩ :: groups) rest
      else if c = ')' then
        match groups with
        | [] => none
        | g :: groups =>
          readFrom fuel g.freeSpacing names (g.before.add (.group g.change b.close)) groups rest
      else if c = '|' then readFrom fuel freeSpacing names b.split groups rest
      else if c = '[' then do
        let (item, rest) ← readSet freeSpacing rest
        readFrom fuel freeSpacing names (b.add (.bracketed item)) groups rest
      else if c = '?' || c = '*' || c = '+' then do
        let b ← b.repeatLast?
        readFrom fuel freeSpacing names b groups (dropLazy rest)
      else if c = '\x7b' then none
      else do
        let (e, rest) ← readPiece freeSpacing (c :: rest)
        readFrom fuel freeSpacing names (b.add e) groups rest

def read? (s : List Char) : Option Expression := readFrom (s.length + 1) false [] .none [] s

end ClusterRegister.Pattern
