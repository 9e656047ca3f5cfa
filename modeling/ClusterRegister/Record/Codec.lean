import ClusterRegister.Json.Printer
import ClusterRegister.Record.Reading

/-!
# Stored records

Types whose values are rows of a layout, their stored bytes, and the bytes of lists of them.
-/

namespace ClusterRegister.Record

open ClusterRegister.Json ClusterRegister.Calendar

def Kind.write : (k : Kind) → k.Value → List Char
  | .text, s => stringText s.toList
  | .path, s => stringText s.toList
  | .port, n => Text.decimal n.toNat
  | .role, r => stringText r.name.toList
  | .instant, t => stringText t.text

/-- The keys and written values of a row, without the columns that are left out. -/
def members : (l : Layout) → Row l → List (String × List Char)
  | [], () => []
  | c :: cs, (v, rest) =>
    if c.leaveOut && c.absent = some v then members cs rest
    else (c.key, c.kind.write v) :: members cs rest

/-- A type of records. -/
class Stored (α : Type) where
  /-- What messages call a record. -/
  name : String
  /-- The columns. -/
  layout : Layout
  /-- The values under the columns. -/
  toRow : α → Row layout
  /-- The record of a row. -/
  ofRow : Row layout → α
  ofRow_toRow : ∀ a, ofRow (toRow a) = a
  distinct : (layout.map (·.key)).Nodup

variable {α : Type} [Stored α]

def text (a : α) : List Char := objectText (members (Stored.layout α) (Stored.toRow a))

def encode (a : α) : Bytes := Utf8.encode (text a)

/-- The stored bytes of a list of records. -/
def encodeList (as : List α) : Bytes := Utf8.encode (listText (as.map text))

/-- White space and a record. -/
def read (s : Bytes) : Except Fault (α × Bytes) := do
  let (row, s) ← readRow (Stored.name α) (Stored.layout α) s
  pure (Stored.ofRow row, s)

/-- Reads records up to the closing bracket of a list. Each takes one unit of fuel; `first` says that
none was read yet. -/
def readElements : Nat → Bool → Bytes → Except Fault (List α × Bytes)
  | 0, _, s => .error (faultAt .endInList s)
  | fuel + 1, first, s => do
    let (present, s) ← nextElement first s
    if present then
      let (a, s) ← read s
      let (as, s) ← readElements fuel false s
      pure (a :: as, s)
    else pure ([], s.tail)

/-- White space and a list of records. -/
def readRecords (s : Bytes) : Except Fault (List α × Bytes) :=
  match skipSpace s with
  | [] => .error (faultPast .endInValue [])
  | b :: r =>
    if b = byte '[' then readElements (r.length + 1) true r
    else .error (unexpected "a sequence" (b :: r))

/-- What a reading finds in a whole text, after which only white space may stand. -/
def readWhole {β : Type} (reading : Bytes → Except Fault (β × Bytes)) (text : Bytes) :
    Except Malformed β :=
  match reading text with
  | .error fault => .error (fault.locate text)
  | .ok (b, rest) =>
    match skipSpace rest with
    | [] => .ok b
    | more => .error ((faultPast .trailingCharacters more).locate text)

def decode (text : Bytes) : Except Malformed α := readWhole read text

def decodeList (text : Bytes) : Except Malformed (List α) := readWhole readRecords text

end ClusterRegister.Record
