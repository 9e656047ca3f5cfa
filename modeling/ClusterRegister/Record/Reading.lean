import ClusterRegister.Calendar.Reading
import ClusterRegister.Json.Skip
import ClusterRegister.Record.Layout

/-!
# Reading records

A record is read from an object with its keys in any order, where unknown keys are skipped and known
ones must not repeat, or from a list with its values in the order of the columns, where trailing columns
that may be absent can be missing.
-/

namespace ClusterRegister.Record

open ClusterRegister.Json ClusterRegister.Calendar

/-- The fault of finding another value than `expected` at the head of a text; the value itself may be
faulty too. A list or an object is only seen, other values are read. -/
def unexpected (expected : String) (s : Bytes) : Fault :=
  match s with
  | [] => faultPast .expectedValue []
  | b :: r =>
    if b = byte 'n' then word b r .null
    else if b = byte 't' then word b r (.boolean true)
    else if b = byte 'f' then word b r (.boolean false)
    else if b = byte '-' then number true r
    else if isDigit b then number false s
    else if b = byte '\x22' then
      match scanString r with
      | .ok (text, rest) => faultAt (.wrongType (.string text) expected) rest
      | .error fault => fault
    else if b = byte '[' then faultAt (.wrongType .sequence expected) s
    else if b = byte '\x7b' then faultAt (.wrongType .map expected) s
    else faultPast .expectedValue s
where
  /-- A word that should have been another value. -/
  word (first : UInt8) (r : Bytes) (found : Found) : Fault :=
    match scanWord (wordTail first) r with
    | .ok rest => faultAt (.wrongType found expected) rest
    | .error fault => fault
  /-- A number that should have been another value. -/
  number (negative : Bool) (s : Bytes) : Fault :=
    match scanNumber negative s with
    | .ok (n, rest) => faultAt (.wrongType n.found expected) rest
    | .error fault => fault

/-- White space and a string. -/
def readString (expected : String) (s : Bytes) : Except Fault (String × Bytes) :=
  match skipSpace s with
  | [] => .error (faultPast .endInValue [])
  | b :: r => if b = byte '\x22' then scanString r else .error (unexpected expected (b :: r))

/-- White space and an integer from 0 to 65535. -/
def readPort (s : Bytes) : Except Fault (UInt16 × Bytes) :=
  match skipSpace s with
  | [] => .error (faultPast .endInValue [])
  | b :: r =>
    if b = byte '-' then number true r
    else if isDigit b then number false (b :: r)
    else .error (unexpected "u16" (b :: r))
where
  /-- A number whose sign is read already. -/
  number (negative : Bool) (s : Bytes) : Except Fault (UInt16 × Bytes) := do
    match ← scanNumber negative s with
    | (.integer n, rest) =>
      if 0 ≤ n ∧ n < 65536 then pure (UInt16.ofNat n.toNat, rest)
      else throw (faultAt (.wrongValue n "u16") rest)
    | (.float negative x, rest) => throw (faultAt (.wrongType (.float negative x) "u16") rest)

/-- White space and an instant in a string. -/
def readInstant (s : Bytes) : Except Fault (Instant × Bytes) := do
  let (text, rest) ← readString "an RFC 3339 formatted date and time string" s
  match Instant.ofText text.toList with
  | .ok t => pure (t, rest)
  | .error fault => throw (faultAt (.other fault.message) rest)

/-- The name of a role whose opening quote is read already. -/
def readRoleName (s : Bytes) : Except Fault (Role × Bytes) := do
  let (name, rest) ← scanString s
  match Role.ofName? name with
  | some role => pure (role, rest)
  | none => throw (faultAt (.unknownVariant name "`master` or `slave`") rest)

/-- White space and a null. -/
def readNull (s : Bytes) : Except Fault Bytes :=
  match skipSpace s with
  | [] => .error (faultPast .endInValue [])
  | b :: r => if b = byte 'n' then scanWord (wordTail b) r else .error (unexpected "unit" (b :: r))

/-- White space and the colon after a key. -/
def readColon (s : Bytes) : Except Fault Bytes :=
  match skipSpace s with
  | [] => .error (faultPast .endInObject [])
  | b :: r => if b = byte ':' then .ok r else .error (faultPast .expectedColon (b :: r))

/-- White space and a role: its name, or an object whose one key is the name and whose value is null. -/
def readRole (s : Bytes) : Except Fault (Role × Bytes) :=
  match skipSpace s with
  | [] => .error (faultPast .endInValue [])
  | b :: r =>
    if b = byte '\x22' then readRoleName r
    else if b = byte '\x7b' then
      match skipSpace r with
      | [] => .error (faultPast .endInObject [])
      | c :: after =>
        if c = byte '\x22' then do
          let (role, s) ← readRoleName after
          let s ← readNull (← readColon s)
          match skipSpace s with
          | [] => throw (faultAt .endInObject [])
          | d :: rest => if d = byte '\x7d' then pure (role, rest) else throw (faultAt .expectedValue (d :: rest))
        else if c = byte '\x7d' then .error (faultPast .expectedValue (c :: after))
        else .error (faultPast .keyNotString (c :: after))
    else .error (faultPast .expectedValue (b :: r))

/-- White space and a value of a kind. -/
def Kind.read : (k : Kind) → Bytes → Except Fault (k.Value × Bytes)
  | .text, s => readString "a string" s
  | .path, s => readString "path string" s
  | .port, s => readPort s
  | .role, s => readRole s
  | .instant, s => readInstant s

/-- The fault of a key that repeats; `s` follows the key. If the object ends right there, its brace is
read. -/
def duplicate (key : String) (s : Bytes) : Fault :=
  match skipSpace s with
  | [] => faultAt (.duplicateField key) []
  | b :: r => faultAt (.duplicateField key) (if b = byte '\x7d' then r else b :: r)

/-- Reads the value under a known key into its slot; `s` follows the key. None if no column has the
key. -/
def Slots.fill : (l : Layout) → Slots l → String → Bytes → Option (Except Fault (Slots l × Bytes))
  | [], (), _, _ => .none
  | c :: cs, (value, rest), key, s =>
    if key = c.key then
      match value with
      | some _ => some (.error (duplicate key s))
      | .none => some do
        let s ← readColon s
        let (v, s) ← c.kind.read s
        pure ((some v, rest), s)
    else
      (Slots.fill cs rest key s).map fun filled => do
        let (slots, s) ← filled
        pure ((value, slots), s)

/-- Reads a key, whose opening quote is read already, and its value. -/
def readMember (l : Layout) (slots : Slots l) (s : Bytes) : Except Fault (Slots l × Bytes) := do
  let (key, s) ← scanString s
  match Slots.fill l slots key s with
  | some filled => filled
  | none =>
    let s ← skipValue (← readColon s)
    pure (slots, s)

/-- Reads the members of an object up to its closing brace. Each takes one unit of fuel; `first` says
that none was read yet. -/
def readMembers (l : Layout) : Nat → Bool → Slots l → Bytes → Except Fault (Slots l × Bytes)
  | 0, _, _, s => .error (faultAt .endInObject s)
  | fuel + 1, first, slots, s =>
    match skipSpace s with
    | [] => .error (faultPast .endInObject [])
    | b :: r =>
      if b = byte '\x7d' then .ok (slots, r)
      else if first then
        if b = byte '\x22' then do
          let (slots, s) ← readMember l slots r
          readMembers l fuel false slots s
        else .error (faultPast .keyNotString (b :: r))
      else if b = byte ',' then
        match skipSpace r with
        | [] => .error (faultPast .endInValue [])
        | c :: after =>
          if c = byte '\x22' then do
            let (slots, s) ← readMember l slots after
            readMembers l fuel false slots s
          else if c = byte '\x7d' then .error (faultPast .trailingComma (c :: after))
          else .error (faultPast .keyNotString (c :: after))
      else .error (faultPast .expectedObjectComma (b :: r))

/-- Reads a record from the rest of an object. A missing column is noticed after the closing brace. -/
def readObject (l : Layout) (s : Bytes) : Except Fault (Row l × Bytes) := do
  let (slots, s) ← readMembers l (s.length + 1) true (Slots.none l) s
  match Slots.finish l slots with
  | .ok row => pure (row, s)
  | .error key => throw (faultAt (.missingField key) s)

/-- The start of the next element of a list, or none at its closing bracket; `first` says that none was
read yet. The text given back starts at the element or at the bracket. -/
def nextElement (first : Bool) (s : Bytes) : Except Fault (Bool × Bytes) :=
  match skipSpace s with
  | [] => .error (faultPast .endInList [])
  | b :: r =>
    if b = byte ']' then .ok (false, b :: r)
    else if first then .ok (true, b :: r)
    else if b = byte ',' then
      match skipSpace r with
      | [] => .error (faultPast .endInValue [])
      | c :: after =>
        if c = byte ']' then .error (faultPast .trailingComma (c :: after)) else .ok (true, c :: after)
    else .error (faultPast .expectedListComma (b :: r))

/-- The rest after the closing bracket of a list all of whose elements are read. -/
def endList (s : Bytes) : Except Fault Bytes :=
  match skipSpace s with
  | [] => .error (faultPast .endInList [])
  | b :: r =>
    if b = byte ']' then .ok r
    else if b = byte ',' then
      match skipSpace r with
      | c :: after =>
        .error (if c = byte ']' then faultPast .trailingComma (c :: after)
          else faultPast .trailingCharacters (c :: after))
      | [] => .error (faultPast .trailingCharacters [])
    else .error (faultPast .trailingCharacters (b :: r))

/-- Reads the values of the columns in their order; `index` of them were read. A missing one is noticed
after the closing bracket. -/
def readColumns (expected : String) : (l : Layout) → Nat → Bytes → Except Fault (Row l × Bytes)
  | [], _, s => .ok ((), s)
  | c :: cs, index, s => do
    let (present, s) ← nextElement (index == 0) s
    if present then
      let (v, s) ← c.kind.read s
      let (rest, s) ← readColumns expected cs (index + 1) s
      pure ((v, rest), s)
    else
      match c.absent with
      | some v =>
        let (rest, s) ← readColumns expected cs (index + 1) s
        pure ((v, rest), s)
      | none => throw (faultAt (.wrongLength index expected) s.tail)

/-- Reads a record from the rest of a list. -/
def readList (expected : String) (l : Layout) (s : Bytes) : Except Fault (Row l × Bytes) := do
  let (row, s) ← readColumns expected l 0 s
  let s ← endList s
  pure (row, s)

/-- White space and a record of a layout; `name` is what messages call it. -/
def readRow (name : String) (l : Layout) (s : Bytes) : Except Fault (Row l × Bytes) :=
  match skipSpace s with
  | [] => .error (faultPast .endInValue [])
  | b :: r =>
    if b = byte '[' then
      readList ("struct " ++ name ++ " with " ++ Text.natText l.length ++ " elements") l r
    else if b = byte '\x7b' then readObject l r
    else .error (unexpected ("struct " ++ name) (b :: r))

end ClusterRegister.Record
