import ClusterRegister.Pattern.Reading

/-!
# Supported expressions

Which expressions can be matched. Patterns match text, so what would match a byte beyond ASCII on its own
is refused, and no tables of letter cases, of kinds of characters and of words beyond ASCII are at hand.
-/

namespace ClusterRegister.Pattern

/-- The modes that decide what is supported. Without `unicode` sets contain bytes. -/
structure Modes where
  ignoreCase : Bool
  unicode : Bool
deriving DecidableEq, Repr

def Modes.initial : Modes := ⟨false, true⟩

def Modes.after (m : Modes) (change : ModeChange) : Modes :=
  ⟨change.ignoreCase.getD m.ignoreCase, change.unicode.getD m.unicode⟩

/-- A literal of ASCII. -/
def Literal.isAscii (l : Literal) : Bool := l.char.toNat < 128

/-- A literal that can stand alone: a byte beyond ASCII is no text. -/
def Literal.isSupported (m : Modes) (l : Literal) : Bool :=
  if m.unicode then !m.ignoreCase else l.isAscii || !l.isByte

/-- A literal that can stand in a set. -/
def Literal.isSupportedInSet (m : Modes) (l : Literal) : Bool :=
  if m.unicode then !m.ignoreCase else l.isAscii

def isSupportedShorthand (m : Modes) (negated : Bool) : Bool := !m.unicode && !negated

mutual

def Item.isSupported (m : Modes) : Item → Bool
  | .nothing => true
  | .literal l => l.isSupportedInSet m
  | .range first last => first.isSupportedInSet m && last.isSupportedInSet m
  | .named negated => if m.unicode then !m.ignoreCase else !negated
  | .shorthand negated => isSupportedShorthand m negated
  | .union items => areSupported m items
  | .combined left right => left.isSupported m && right.isSupported m
  | .set negated content => content.isSupported m && (m.unicode || !negated)

def areSupported (m : Modes) : List Item → Bool
  | [] => true
  | i :: is => i.isSupported m && areSupported m is

end

mutual

/-- Whether an expression needs to know words beyond ASCII, and the modes after it; none if it cannot be
matched at all. -/
def Expression.needsWords (m : Modes) : Expression → Option (Bool × Modes)
  | .empty => some (false, m)
  | .modes change => some (false, m.after change)
  | .literal l => if l.isSupported m then some (false, m) else none
  | .anyChar => if m.unicode then some (false, m) else none
  | .anchor => some (false, m)
  | .boundary => some (m.unicode, m)
  | .shorthand negated => if isSupportedShorthand m negated then some (false, m) else none
  | .bracketed item => if item.isSupported m then some (false, m) else none
  | .repeated e => e.needsWords m
  | .group change e => do
    let (words, _) ← e.needsWords (m.after change)
    pure (words, m)
  | .alternatives es => needWords m es
  | .sequence es => needWords m es

/-- Whether one of some expressions, each read after the one before it, needs to know words beyond ASCII,
and the modes after the last one. -/
def needWords (m : Modes) : List Expression → Option (Bool × Modes)
  | [] => some (false, m)
  | e :: es => do
    let (words, m) ← e.needsWords m
    let (more, m) ← needWords m es
    pure (words || more, m)

end

/-- Why a pattern cannot be used. -/
inductive Fault
  | malformed
  | needsWords
deriving DecidableEq, Repr

/-- Why a pattern cannot be used, in words. -/
def Fault.message : Fault → String
  | .malformed => "error building NFA"
  | .needsWords =>
    "unsupported regex feature for DFAs: cannot build DFAs for regexes with Unicode word boundaries; " ++
      "switch to ASCII word boundaries, or heuristically enable Unicode word boundaries or use a " ++
      "different regex engine"

def depthLimit : Nat := 250

/-- Checks that a text is an expression that can be matched. -/
def validate (s : List Char) : Except Fault Unit :=
  match read? s with
  | none => .error .malformed
  | some e =>
    if depthLimit < e.depth then .error .malformed
    else
      match e.needsWords .initial with
      | none => .error .malformed
      | some (true, _) => .error .needsWords
      | some (false, _) => .ok ()

end ClusterRegister.Pattern
