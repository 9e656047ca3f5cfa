import ClusterRegister.Pattern.Support
import ClusterRegister.Text.Blank
import ClusterRegister.Text.Decimal
import ClusterRegister.Text.Quoted

/-!
# Log filters

A log filter is a list of directives with commas between them. A directive is a level, a target, a span
in brackets, possibly with fields in braces, or a target and a span; all but a bare level may be followed
by an equals sign and a level. A field may have a value after an equals sign, which is a number or a
pattern.

A directive is read without the blanks around it, but its parts are cut out of the text with them. So
blanks at its head make all parts start and end too early, and a part may have to be cut inside a
character, which cannot be done.
-/

namespace ClusterRegister.LogFilter

open ClusterRegister.Text

/-- A cut at a byte inside a character: whether a part starts or ends there, and where the character is. -/
structure BadCut where
  isStart : Bool
  index : Nat
  char : Char
  charStart : Nat
deriving DecidableEq, Repr

/-- What is wrong with a cut, in words. -/
def BadCut.message (cut : BadCut) : String :=
  (if cut.isStart then "start" else "end") ++ " byte index " ++ natText cut.index ++
    " is not a char boundary; it is inside " ++ String.ofList (quotedAlone cut.char) ++ " (bytes " ++
    natText cut.charStart ++ ".." ++ natText (cut.charStart + cut.char.utf8Size) ++ " of string)"

/-- What is wrong with a log filter. -/
inductive FilterFault
  | badDirective
  | badLevel
  | badPattern (fault : Pattern.Fault)
  | badCut (cut : BadCut)
deriving DecidableEq, Repr

/-- What is wrong with a log filter, in words. -/
def FilterFault.message : FilterFault → String
  | .badDirective => "invalid filter directive"
  | .badLevel =>
    "error parsing level filter: expected one of \"off\", \"error\", \"warn\", " ++
      "\"info\", \"debug\", \"trace\", or a number 0-5"
  | .badPattern fault => "invalid field filter: " ++ fault.message
  | .badCut cut => cut.message

def byteLength (cs : List Char) : Nat := cs.foldl (fun n c => n + c.utf8Size) 0

/-- A text before a byte, or the character in which it is cut there and the start of that character;
`passed` bytes came before the text. -/
def takeBytes (passed : Nat) : List Char → Nat → Except (Char × Nat) (List Char)
  | _, 0 => .ok []
  | [], _ => .ok []
  | c :: cs, n =>
    if n < c.utf8Size then .error (c, passed)
    else (takeBytes (passed + c.utf8Size) cs (n - c.utf8Size)).map (c :: ·)

/-- A text before a byte at which a part of it starts or ends. -/
def before (text : List Char) (index : Nat) (isStart : Bool) : Except FilterFault (List Char) :=
  match takeBytes 0 text index with
  | .ok cs => .ok cs
  | .error (c, charStart) => .error (.badCut ⟨isStart, index, c, charStart⟩)

/-- The part of a text between two bytes. -/
def part (text : List Char) (start stop : Nat) : Except FilterFault (List Char) := do
  let skipped ← before text start true
  let taken ← before text stop false
  pure (taken.drop skipped.length)

/-- A level by its name in any ASCII case or by its number; it may be left empty. -/
def isLevel (cs : List Char) : Bool :=
  cs = [] ||
    ["off", "error", "warn", "info", "debug", "trace"].contains (asciiLower (String.ofList cs)) ||
    (unsigned? cs).any (· ≤ 5)

/-- Checks a field: its name, and up to another equals sign its value. Any name will do. -/
def checkField (field : List Char) : Except FilterFault Unit :=
  match field.dropWhile (· ≠ '=') with
  | [] => .ok ()
  | _ :: rest =>
    let value := rest.takeWhile (· ≠ '=')
    if isNumber value then .ok ()
    else
      match Pattern.validate value with
      | .ok () => .ok ()
      | .error fault => .error (.badPattern fault)

/-- Checks the level that a directive has from a byte on. -/
def checkLevel (text : List Char) (start : Nat) : Except FilterFault Unit := do
  if isLevel (← part text start (byteLength text)) then pure () else throw .badLevel

/-- Where a directive stands: before its first character, in its target, in the name of its span, in the
fields of its span, after the fields, after the span. Where a part is read, its first byte is known. -/
inductive Position
  | start
  | target
  | span (first : Nat)
  | field (first : Nat)
  | fieldsEnd
  | spanEnd
deriving DecidableEq, Repr

def startsTarget (c : Char) : Bool := c = '-' || c = ':' || c = '_' || isAlphanumeric c

/-- Checks a directive from a position on, before which `index` bytes were read; its parts are cut out of
`text`. -/
def checkFrom (text : List Char) : Position → Nat → List Char → Except FilterFault Unit
  | .target, _, [] => .ok ()
  | .spanEnd, _, [] => .ok ()
  | _, _, [] => .error .badDirective
  | .start, index, c :: cs =>
    if c = '[' then checkFrom text (.span (index + 1)) (index + 1) cs
    else if startsTarget c then checkFrom text .target (index + c.utf8Size) cs
    else .error .badDirective
  | .target, index, c :: cs =>
    if c = '=' then do
      let _ ← part text 0 index
      checkLevel text (index + 1)
    else if c = '[' then do
      let _ ← part text 0 index
      checkFrom text (.span (index + 1)) (index + 1) cs
    else checkFrom text .target (index + c.utf8Size) cs
  | .span first, index, c :: cs =>
    if c = ']' then do
      let _ ← part text first index
      checkFrom text .spanEnd (index + 1) cs
    else if c = '\x7b' then do
      let _ ← part text first index
      checkFrom text (.field (index + 1)) (index + 1) cs
    else checkFrom text (.span first) (index + c.utf8Size) cs
  | .field first, index, c :: cs =>
    if c = '\x7d' then do
      let field ← part text first index
      if field = [] then throw .badDirective
      checkField field
      checkFrom text .fieldsEnd (index + 1) cs
    else checkFrom text (.field first) (index + c.utf8Size) cs
  | .fieldsEnd, index, c :: cs =>
    if c = ']' then checkFrom text .spanEnd (index + 1) cs else .error .badDirective
  | .spanEnd, index, c :: _ => if c = '=' then checkLevel text (index + 1) else .error .badDirective

def validateDirective (text : List Char) : Except FilterFault Unit :=
  checkFrom text .start 0 (trim text)

/-- The parts of a text between its commas. -/
def splitAtCommas : List Char → List (List Char)
  | [] => [[]]
  | c :: cs =>
    if c = ',' then [] :: splitAtCommas cs
    else
      match splitAtCommas cs with
      | [] => [[c]]
      | part :: rest => (c :: part) :: rest

/-- Checks the directives of a filter that are not empty. -/
def validateFilter (filter : String) : Except FilterFault Unit :=
  ((splitAtCommas filter.toList).filter (· ≠ [])).forM validateDirective

end ClusterRegister.LogFilter
