/-!
# Expressions

Regular expressions as they are written, and how deep they are nested.
-/

namespace ClusterRegister.Pattern

/-- A character that stands for itself; it is a byte if it was written with two hexadecimal digits. -/
structure Literal where
  char : Char
  isByte : Bool
deriving DecidableEq, Repr

/-- A change of modes: each is switched on or off, or kept. With free spacing, blanks and comments may
stand in the expression. -/
structure ModeChange where
  ignoreCase : Option Bool
  unicode : Option Bool
  freeSpacing : Option Bool
deriving DecidableEq, Repr

def ModeChange.keep : ModeChange := ⟨none, none, none⟩

/-- What stands in brackets: characters, ranges, named classes such as `[:alpha:]`, shorthands such as
`\d`, several of these, two sets combined by an operator, or a set in its own brackets. -/
inductive Item
  | nothing
  | literal (l : Literal)
  | range (first last : Literal)
  | named (negated : Bool)
  | shorthand (negated : Bool)
  | union (items : List Item)
  | combined (left right : Item)
  | set (negated : Bool) (content : Item)
deriving Repr

/-- A regular expression. Anchors hold at the ends of lines or of the text, boundaries at the ends of
words. -/
inductive Expression
  | empty
  | modes (change : ModeChange)
  | literal (l : Literal)
  | anyChar
  | anchor
  | boundary
  | shorthand (negated : Bool)
  | bracketed (item : Item)
  | repeated (e : Expression)
  | group (change : ModeChange) (e : Expression)
  | alternatives (es : List Expression)
  | sequence (es : List Expression)
deriving Repr

mutual

def Item.depth : Item → Nat
  | .nothing => 0
  | .literal _ => 0
  | .range _ _ => 0
  | .named _ => 0
  | .shorthand _ => 0
  | .union items => depthOfItems items + 1
  | .combined left right => max left.depth right.depth + 1
  | .set _ content => content.depth + 1

/-- How deep the deepest of some items is nested. -/
def depthOfItems : List Item → Nat
  | [] => 0
  | i :: is => max i.depth (depthOfItems is)

end

mutual

def Expression.depth : Expression → Nat
  | .empty => 0
  | .modes _ => 0
  | .literal _ => 0
  | .anyChar => 0
  | .anchor => 0
  | .boundary => 0
  | .shorthand _ => 0
  | .bracketed item => item.depth
  | .repeated e => e.depth + 1
  | .group _ e => e.depth + 1
  | .alternatives es => depthOfExpressions es + 1
  | .sequence es => depthOfExpressions es + 1

/-- How deep the deepest of some expressions is nested. -/
def depthOfExpressions : List Expression → Nat
  | [] => 0
  | e :: es => max e.depth (depthOfExpressions es)

end

end ClusterRegister.Pattern
