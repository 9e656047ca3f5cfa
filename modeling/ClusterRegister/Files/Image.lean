import ClusterRegister.Register.Tables
import ClusterRegister.Text.Decimal

/-!
# Store images

The bytes of a store file: a mark, which is not UTF-8, and then the entries of all tables. An entry is a
letter for its table, its key and its value, each with its length in front.
-/

namespace ClusterRegister.Files

open ClusterRegister.Register ClusterRegister.Text

/-- What every store file starts with. -/
def imageMark : Bytes := 0xFF :: Utf8.bytes "cluster register 1\n"

/-- Bytes with their length in front. -/
def sized (bs : Bytes) : Bytes := Utf8.encode (decimal bs.length) ++ 0x3A :: bs

/-- An entry of the table with a letter. -/
def imageEntry (letter : Char) (key value : Bytes) : Bytes :=
  Utf8.encode [letter] ++ sized key ++ sized value

/-- The bytes of a store file with given tables. -/
def image (t : Tables) : Bytes :=
  let records (letter : Char) (table : Table String Bytes) : Bytes :=
    table.entries.flatMap fun (key, value) => imageEntry letter (Utf8.bytes key) value
  imageMark ++ records 'c' t.clusters ++ records 'h' t.hosts ++ records 'i' t.instances ++
    t.order.entries.flatMap fun (key, value) =>
      imageEntry 'o' (Utf8.encode (decimal key.toNat)) (Utf8.bytes value)

/-- Bytes that start with their length, and the rest. -/
def unsized? (bs : Bytes) : Option (Bytes × Bytes) := do
  let digits := bs.takeWhile (· ≠ 0x3A)
  let n ← unsigned? (digits.map fun b => Char.ofNat b.toNat)
  let rest := bs.drop (digits.length + 1)
  if n ≤ rest.length then pure (rest.take n, rest.drop n) else none

/-- The tables with one more entry, of the table with a letter. -/
def addEntry? (t : Tables) (letter : UInt8) (key value : Bytes) : Option Tables := do
  if letter = 0x6F then
    let n ← unsigned? (key.map fun b => Char.ofNat b.toNat)
    let id ← Utf8.decode? value
    pure { t with order := t.order.insert (UInt64.ofNat n) (String.ofList id) }
  else
    let name ←
      if letter = 0x63 then some TableName.clusters
      else if letter = 0x68 then some TableName.hosts
      else if letter = 0x69 then some TableName.instances
      else none
    let key ← Utf8.decode? key
    pure (t.put name (String.ofList key) value)

/-- The tables with the entries of the rest of an image. Each entry takes one unit of fuel. -/
def readEntries? : Nat → Tables → Bytes → Option Tables
  | _, t, [] => some t
  | 0, _, _ :: _ => none
  | fuel + 1, t, letter :: rest => do
    let (key, rest) ← unsized? rest
    let (value, rest) ← unsized? rest
    let t ← addEntry? t letter key value
    readEntries? fuel t rest

/-- The tables of the bytes of a store file. -/
def ofImage? (bs : Bytes) : Option Tables :=
  if bs.take imageMark.length = imageMark then
    readEntries? bs.length .empty (bs.drop imageMark.length)
  else none

end ClusterRegister.Files
