import ClusterRegister.Calendar.Instant
import ClusterRegister.Role

/-!
# Layouts of records

A record is a row of values under the columns of a layout. A column has a key and a kind of value; it
may have a value that stands for an absent one, and may leave out that value when it is written.
-/

namespace ClusterRegister.Record

open ClusterRegister.Calendar

/-- The kinds of values in a column. A path is text that names a file. -/
inductive Kind
  | text
  | path
  | port
  | role
  | instant
deriving DecidableEq, Repr

abbrev Kind.Value : Kind → Type
  | .text => String
  | .path => String
  | .port => UInt16
  | .role => Role
  | .instant => Instant

instance : (k : Kind) → DecidableEq k.Value
  | .text => inferInstanceAs (DecidableEq String)
  | .path => inferInstanceAs (DecidableEq String)
  | .port => inferInstanceAs (DecidableEq UInt16)
  | .role => inferInstanceAs (DecidableEq Role)
  | .instant => inferInstanceAs (DecidableEq Instant)

/-- A column: its key, its kind, the value that stands for an absent one, and whether that value is
left out when the record is written. -/
structure Column where
  key : String
  kind : Kind
  absent : Option kind.Value
  leaveOut : Bool

/-- A column that has to be present. -/
def Column.required (key : String) (kind : Kind) : Column := ⟨key, kind, none, false⟩

/-- A column that may be absent. -/
def Column.optional (key : String) (kind : Kind) (value : kind.Value) : Column :=
  ⟨key, kind, some value, false⟩

/-- The columns of a record in the order in which they are written. -/
abbrev Layout := List Column

/-- A value for each column. -/
abbrev Row : Layout → Type
  | [] => Unit
  | c :: cs => c.kind.Value × Row cs

/-- A value for some of the columns. -/
abbrev Slots : Layout → Type
  | [] => Unit
  | c :: cs => Option c.kind.Value × Slots cs

def Slots.none : (l : Layout) → Slots l
  | [] => ()
  | _ :: cs => (.none, Slots.none cs)

/-- The full row, where absent values are replaced; otherwise the key of the first column that has to be
present and is not. -/
def Slots.finish : (l : Layout) → Slots l → Except String (Row l)
  | [], () => .ok ()
  | c :: cs, (value, rest) => do
    match value.or c.absent with
    | some v => pure (v, ← Slots.finish cs rest)
    | .none => throw c.key

end ClusterRegister.Record
