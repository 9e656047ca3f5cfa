import ClusterRegister.Proofs.JsonText
import ClusterRegister.Proofs.Timestamps
import ClusterRegister.Record.Codec

/-!
# Reading records back

Records and lists of records are read back from their stored bytes, whatever follows them. An object is
read column by column: a key that is read fills its slot, and a column that was left out has the value
that stands for an absent one. Only an instant may come back as another one with the same text.
-/

namespace ClusterRegister.Record

open ClusterRegister.Json ClusterRegister.Calendar

private theorem encode_stringText (cs : List Char) (rest : Bytes) :
    Utf8.encode (stringText cs) ++ rest =
      byte '\x22' :: (Utf8.encode (cs.flatMap escapedChar) ++ byte '\x22' :: rest) := by
  rw [stringText, Utf8.encode_append, List.append_assoc]
  rfl

private theorem readString_stringText (expected : String) (cs : List Char) (rest : Bytes) :
    readString expected (Utf8.encode (stringText cs) ++ rest) = .ok (String.ofList cs, rest) := by
  rw [encode_stringText]
  exact scanString_escaped cs rest

theorem isSpace_of_isDigit {b : UInt8} (digit : isDigit b = true) : isSpace b = false := by
  simp only [isDigit, Bool.and_eq_true, decide_eq_true_eq, UInt8.le_iff_toNat_le] at digit
  have least : 0x30 ≤ b.toNat := digit.1
  simp only [isSpace, Bool.or_eq_false_iff, decide_eq_false_iff_not]
  refine ⟨⟨⟨?_, ?_⟩, ?_⟩, ?_⟩ <;> rintro rfl <;> exact absurd least (by decide)

theorem decimal_bytes (n : Nat) : ∃ d ds, isDigit d = true ∧ Utf8.encode (Text.decimal n) = d :: ds := by
  obtain ⟨d, ds, split, digit⟩ := decimal_cons n
  refine ⟨byte d, ds.map byte, digit, ?_⟩
  rw [encode_ascii fun c member => ascii_of_isDigit (decimal_isDigit (n := n) member), split, List.map_cons]

private theorem readPort_decimal (n : UInt16) {rest : Bytes} (ends : EndsNumber rest) :
    readPort (Utf8.encode (Text.decimal n.toNat) ++ rest) = .ok (n, rest) := by
  have small := n.toNat_lt
  have scanned := scanNumber_decimal (n := n.toNat) (Nat.lt_trans small (by decide)) ends
  obtain ⟨d, ds, digit, split⟩ := decimal_bytes n.toNat
  have no_sign : d ≠ byte '-' := by
    rintro rfl
    exact absurd digit (by decide)
  have at_digit := skipSpace_cons (isSpace_of_isDigit digit) (ds ++ rest)
  rw [split, List.cons_append] at scanned ⊢
  simp only [readPort, at_digit, no_sign, digit, if_false, if_true, readPort.number, scanned, bind, Except.bind]
  rw [if_pos (by omega), Int.toNat_natCast, UInt16.ofNat_toNat]
  rfl

/-- The value that is read back for a written one. -/
def Kind.readBack : (k : Kind) → k.Value → k.Value
  | .instant, t => t.carried
  | .text, s => s
  | .path, s => s
  | .port, n => n
  | .role, r => r

theorem Kind.readBack_of_ne {k : Kind} (no_instant : k ≠ .instant) (v : k.Value) : k.readBack v = v := by
  cases k with
  | instant => exact absurd rfl no_instant
  | _ => rfl

/-- A value is read back from its written text, if no more of a number follows it. -/
theorem Kind.read_write (k : Kind) (v : k.Value) {rest : Bytes} (ends : EndsNumber rest) :
    k.read (Utf8.encode (k.write v) ++ rest) = .ok (k.readBack v, rest) := by
  cases k with
  | text =>
    rw [Kind.read, Kind.write, readString_stringText, String.ofList_toList]
    rfl
  | path =>
    rw [Kind.read, Kind.write, readString_stringText, String.ofList_toList]
    rfl
  | port => exact readPort_decimal v ends
  | role =>
    rw [Kind.read, Kind.write, encode_stringText]
    have named : readRoleName (Utf8.encode ((Role.name v).toList.flatMap escapedChar) ++ byte '\x22' :: rest) =
        .ok (v, rest) := by
      rw [readRoleName, scanString_escaped, String.ofList_toList]
      simp only [bind, Except.bind, Role.ofName?_name]
      rfl
    exact named
  | instant =>
    rw [Kind.read, Kind.write, readInstant, readString_stringText]
    simp only [bind, Except.bind, String.toList_ofList, ofText_text]
    rfl

/-- The row that is read back for a written one. A value that was left out stands for an absent one. -/
def Row.readBack : (l : Layout) → Row l → Row l
  | [], () => ()
  | c :: cs, (v, rest) =>
    (if c.leaveOut && c.absent = some v then v else c.kind.readBack v, Row.readBack cs rest)

theorem Row.readBack_of_no_instant {l : Layout} (no_instant : ∀ c ∈ l, c.kind ≠ .instant) (row : Row l) :
    Row.readBack l row = row := by
  induction l with
  | nil => rfl
  | cons c cs ih =>
    obtain ⟨v, rest⟩ := row
    rw [Row.readBack, Kind.readBack_of_ne (no_instant c (.head _)), ite_self,
      ih fun d later => no_instant d (.tail _ later)]

/-- The slots of a row whose columns with given keys are filled. -/
def Slots.taken : (l : Layout) → Row l → List String → Slots l
  | [], (), _ => ()
  | c :: cs, (v, rest), keys => (if c.key ∈ keys then some v else .none, Slots.taken cs rest keys)

theorem Slots.taken_nil (l : Layout) (row : Row l) : Slots.taken l row [] = Slots.none l := by
  induction l with
  | nil => rfl
  | cons c cs ih =>
    obtain ⟨v, rest⟩ := row
    simp only [Slots.taken, Slots.none, List.not_mem_nil, if_false, ih rest]

theorem Slots.taken_other {l : Layout} (row : Row l) {key : String} (other : key ∉ l.map (·.key))
    (seen : List String) : Slots.taken l row (key :: seen) = Slots.taken l row seen := by
  induction l with
  | nil => rfl
  | cons c cs ih =>
    obtain ⟨v, rest⟩ := row
    simp only [List.map_cons, List.mem_cons, not_or] at other
    have different : c.key ≠ key := fun same => other.1 same.symm
    simp only [Slots.taken, List.mem_cons, different, false_or, ih rest other.2]

private theorem mem_keys_of_mem_members {l : Layout} {row : Row l} {m : String × List Char}
    (member : m ∈ members l row) : m.1 ∈ l.map (·.key) := by
  induction l with
  | nil => simp [members] at member
  | cons c cs ih =>
    obtain ⟨v, rest⟩ := row
    simp only [members] at member
    rw [List.map_cons]
    split at member
    · exact .tail _ (ih member)
    · rcases List.mem_cons.1 member with rfl | later
      · exact .head _
      · exact .tail _ (ih later)

private theorem nodup_members {l : Layout} (distinct : (l.map (·.key)).Nodup) (row : Row l) :
    ((members l row).map (·.1)).Nodup := by
  induction l with
  | nil => exact .nil
  | cons c cs ih =>
    obtain ⟨v, rest⟩ := row
    rw [List.map_cons, List.nodup_cons] at distinct
    simp only [members]
    split
    · exact ih distinct.2 rest
    · rw [List.map_cons, List.nodup_cons]
      refine ⟨fun again => ?_, ih distinct.2 rest⟩
      obtain ⟨m, member, same⟩ := List.mem_map.1 again
      have inside := mem_keys_of_mem_members member
      rw [same] at inside
      exact distinct.1 inside

/-- The written value of a column goes into the slot of that column. -/
theorem Slots.fill_taken {l : Layout} (distinct : (l.map (·.key)).Nodup) {row : Row l} {key : String}
    {value : List Char} (member : (key, value) ∈ members l row) {seen : List String} (fresh : key ∉ seen)
    {rest : Bytes} (ends : EndsNumber rest) :
    Slots.fill l (Slots.taken l (Row.readBack l row) seen) key (byte ':' :: (Utf8.encode value ++ rest)) =
      some (.ok (Slots.taken l (Row.readBack l row) (key :: seen), rest)) := by
  induction l with
  | nil => simp [members] at member
  | cons c cs ih =>
    obtain ⟨v, more⟩ := row
    rw [List.map_cons, List.nodup_cons] at distinct
    by_cases here : key = c.key
    · subst here
      have written : ¬ (c.leaveOut && c.absent = some v) = true ∧ value = c.kind.write v := by
        simp only [members] at member
        split at member
        · exact absurd (mem_keys_of_mem_members member) distinct.1
        · next not_out =>
          rcases List.mem_cons.1 member with same | later
          · exact ⟨not_out, (Prod.mk.inj same).2⟩
          · exact absurd (mem_keys_of_mem_members later) distinct.1
      obtain ⟨not_out, rfl⟩ := written
      have colon : readColon (byte ':' :: (Utf8.encode (c.kind.write v) ++ rest)) =
          .ok (Utf8.encode (c.kind.write v) ++ rest) := rfl
      have others := Slots.taken_other (Row.readBack cs more) distinct.1 seen
      simp only [Row.readBack, not_out, Slots.taken, Slots.fill, fresh, if_false, if_true, colon, bind, Except.bind,
        c.kind.read_write v ends, others, List.mem_cons_self]
      rfl
    · have later : (key, value) ∈ members cs more := by
        simp only [members] at member
        split at member
        · exact member
        · rcases List.mem_cons.1 member with same | later
          · exact absurd (Prod.mk.inj same).1 here
          · exact later
      have different : c.key ≠ key := fun same => here same.symm
      simp only [Row.readBack, Slots.taken, Slots.fill, here, if_false, ih distinct.2 later, Option.map_some, bind,
        Except.bind, List.mem_cons, different, false_or]
      rfl

/-- A row is complete once all columns that are written are filled: the others have the value that stands
for an absent one. -/
theorem Slots.finish_taken {l : Layout} (row : Row l) {seen : List String}
    (all : ∀ m ∈ members l row, m.1 ∈ seen) :
    Slots.finish l (Slots.taken l (Row.readBack l row) seen) = .ok (Row.readBack l row) := by
  induction l with
  | nil => rfl
  | cons c cs ih =>
    obtain ⟨v, rest⟩ := row
    let back := if c.leaveOut && c.absent = some v then v else c.kind.readBack v
    have present : (if c.key ∈ seen then some back else .none).or c.absent = some back := by
      by_cases filled : c.key ∈ seen
      · rw [if_pos filled, Option.some_or]
      · rw [if_neg filled, Option.none_or]
        by_cases out : c.leaveOut && c.absent = some v
        · simp only [back, if_pos out]
          simp only [Bool.and_eq_true, decide_eq_true_eq] at out
          exact out.2
        · refine absurd (all (c.key, c.kind.write v) ?_) filled
          rw [members, if_neg out]
          exact .head _
    have tail : ∀ m ∈ members cs rest, m.1 ∈ seen := by
      intro m member
      refine all m ?_
      rw [members]
      split
      · exact member
      · exact .tail _ member
    simp only [back] at present
    simp only [Row.readBack, Slots.taken, Slots.finish, present, ih rest tail]
    rfl

/-- A key and its written value in an object. -/
def memberText (m : String × List Char) : List Char := stringText m.1.toList ++ ':' :: m.2

theorem separated_cons (item : List Char) (items : List (List Char)) :
    separated (item :: items) = item ++ items.flatMap (',' :: ·) := by
  induction items generalizing item with
  | nil => rw [separated, List.flatMap_nil, List.append_nil]
  | cons next items ih =>
    have step : separated (item :: next :: items) = item ++ ',' :: separated (next :: items) := rfl
    rw [step, ih next, List.flatMap_cons, List.cons_append]

theorem endsNumber_cons {b : UInt8} (rest : Bytes)
    (ends : isDigit b = false ∧ b ≠ byte '.' ∧ b ≠ byte 'e' ∧ b ≠ byte 'E') : EndsNumber (b :: rest) := by
  intro first head
  cases head
  exact ends

/-- What follows a value in a list or in an object. -/
theorem endsNumber_items (items : List (List Char)) (close : UInt8) (rest : Bytes)
    (ends : isDigit close = false ∧ close ≠ byte '.' ∧ close ≠ byte 'e' ∧ close ≠ byte 'E') :
    EndsNumber (Utf8.encode (items.flatMap (',' :: ·)) ++ close :: rest) := by
  cases items with
  | nil => exact endsNumber_cons rest ends
  | cons item items =>
    rw [List.flatMap_cons]
    exact endsNumber_cons _ (by decide)

/-- A written member fills the slot of its column. -/
theorem readMember_taken {l : Layout} (distinct : (l.map (·.key)).Nodup) {row : Row l}
    {m : String × List Char} (member : m ∈ members l row) {seen : List String} (fresh : m.1 ∉ seen)
    {rest : Bytes} (ends : EndsNumber rest) :
    readMember l (Slots.taken l (Row.readBack l row) seen)
        (Utf8.encode (m.1.toList.flatMap escapedChar) ++ byte '\x22' :: byte ':' :: (Utf8.encode m.2 ++ rest)) =
      .ok (Slots.taken l (Row.readBack l row) (m.1 :: seen), rest) := by
  rw [readMember, scanString_escaped, String.ofList_toList]
  simp only [bind, Except.bind, Slots.fill_taken distinct member fresh ends]

private theorem encode_memberText (m : String × List Char) (rest : Bytes) :
    Utf8.encode (memberText m) ++ rest =
      byte '\x22' :: (Utf8.encode (m.1.toList.flatMap escapedChar) ++
        byte '\x22' :: byte ':' :: (Utf8.encode m.2 ++ rest)) := by
  rw [memberText, Utf8.encode_append, List.append_assoc, encode_stringText]
  rfl

/-- Written members after the first one, each after its comma, fill the slots of their columns. -/
theorem readMembers_taken {l : Layout} (distinct : (l.map (·.key)).Nodup) {row : Row l}
    {ms : List (String × List Char)} (inside : ∀ m ∈ ms, m ∈ members l row) (seen : List String)
    (fresh : (ms.map (·.1) ++ seen).Nodup) (fuel : Nat) (enough : ms.length < fuel) (rest : Bytes) :
    readMembers l fuel false (Slots.taken l (Row.readBack l row) seen)
        (Utf8.encode ((ms.map memberText).flatMap (',' :: ·)) ++ byte '\x7d' :: rest) =
      .ok (Slots.taken l (Row.readBack l row) ((ms.map (·.1)).reverse ++ seen), rest) := by
  induction ms generalizing seen fuel with
  | nil =>
    obtain ⟨fuel, rfl⟩ : ∃ n, fuel = n + 1 := ⟨fuel - 1, by simp at enough; omega⟩
    rfl
  | cons m ms ih =>
    obtain ⟨fuel, rfl⟩ : ∃ n, fuel = n + 1 := ⟨fuel - 1, by simp at enough; omega⟩
    have new : m.1 ∉ seen := by
      rw [List.map_cons, List.cons_append, List.nodup_cons] at fresh
      exact fun again => fresh.1 (List.mem_append_right _ again)
    have later : (ms.map (·.1) ++ m.1 :: seen).Nodup := List.Perm.nodup List.perm_middle.symm fresh
    have tail := ih (fun d member => inside d (.tail _ member)) (m.1 :: seen) later fuel (by simp at enough; omega)
    have first := readMember_taken distinct (inside m (.head _)) new
      (endsNumber_items (ms.map memberText) (byte '\x7d') rest (by decide))
    have text : Utf8.encode (((m :: ms).map memberText).flatMap (',' :: ·)) ++ byte '\x7d' :: rest =
        byte ',' :: (Utf8.encode (memberText m) ++
          (Utf8.encode ((ms.map memberText).flatMap (',' :: ·)) ++ byte '\x7d' :: rest)) := by
      rw [List.map_cons, List.flatMap_cons, Utf8.encode_append, List.append_assoc]
      rfl
    rw [text, encode_memberText]
    have comma (s : Bytes) : skipSpace (byte ',' :: s) = byte ',' :: s := rfl
    have quote (s : Bytes) : skipSpace (byte '\x22' :: s) = byte '\x22' :: s := rfl
    have not_close : byte ',' ≠ byte '\x7d' := by decide
    simp only [readMembers, comma, quote, not_close, if_false, if_true, Bool.false_eq_true, first, bind,
      Except.bind, tail]
    rw [List.map_cons, List.reverse_cons, List.append_assoc]
    rfl

private theorem length_le_items (items : List (List Char)) :
    items.length ≤ (Utf8.encode (items.flatMap (',' :: ·))).length := by
  induction items with
  | nil => exact Nat.zero_le _
  | cons item items ih =>
    rw [List.flatMap_cons, Utf8.encode_append, List.length_append, List.length_cons]
    have comma : 1 ≤ (Utf8.encode (',' :: item)).length := by
      rw [show Utf8.encode (',' :: item) = byte ',' :: Utf8.encode item from rfl, List.length_cons]
      omega
    omega

private theorem readMembers_members {l : Layout} (distinct : (l.map (·.key)).Nodup) (row : Row l) {fuel : Nat}
    (enough : ((members l row).map memberText).length < fuel) (rest : Bytes) :
    ∃ seen : List String, (∀ m ∈ members l row, m.1 ∈ seen) ∧
      readMembers l fuel true (Slots.none l)
          (Utf8.encode (separated ((members l row).map memberText)) ++ byte '\x7d' :: rest) =
        .ok (Slots.taken l (Row.readBack l row) seen, rest) := by
  obtain ⟨fuel, rfl⟩ : ∃ n, fuel = n + 1 := ⟨fuel - 1, by omega⟩
  rw [← Slots.taken_nil l (Row.readBack l row)]
  cases written : members l row with
  | nil => exact ⟨[], by simp, rfl⟩
  | cons m ms =>
    rw [written, List.length_map, List.length_cons] at enough
    have inside : ∀ d ∈ m :: ms, d ∈ members l row := fun d member => written ▸ member
    have keys : (m.1 :: ms.map (·.1)).Nodup := by
      have nodup := nodup_members distinct row
      rwa [written, List.map_cons] at nodup
    have first := readMember_taken distinct (inside m (.head _)) (List.not_mem_nil (a := m.1))
      (endsNumber_items (ms.map memberText) (byte '\x7d') rest (by decide))
    have tail := readMembers_taken distinct (fun d member => inside d (.tail _ member)) [m.1]
      (List.Perm.nodup List.perm_middle.symm (by rwa [List.append_nil])) fuel (by omega) rest
    refine ⟨(ms.map (·.1)).reverse ++ [m.1], fun d member => ?_, ?_⟩
    · rcases List.mem_cons.1 member with rfl | later
      · exact List.mem_append_right _ (.head _)
      · exact List.mem_append_left _ (List.mem_reverse.2 (List.mem_map_of_mem later))
    · rw [List.map_cons, separated_cons, Utf8.encode_append, List.append_assoc, encode_memberText]
      have quote (s : Bytes) : skipSpace (byte '\x22' :: s) = byte '\x22' :: s := rfl
      have not_close : byte '\x22' ≠ byte '\x7d' := by decide
      simp only [readMembers, quote, not_close, if_false, if_true, first, bind, Except.bind]
      exact tail

/-- A record is read back from its written text. -/
theorem readRow_members (name : String) {l : Layout} (distinct : (l.map (·.key)).Nodup) (row : Row l)
    (rest : Bytes) :
    readRow name l (Utf8.encode (objectText (members l row)) ++ rest) = .ok (Row.readBack l row, rest) := by
  have text : Utf8.encode (objectText (members l row)) ++ rest =
      byte '\x7b' :: (Utf8.encode (separated ((members l row).map memberText)) ++ byte '\x7d' :: rest) := by
    rw [objectText, Utf8.encode_append, List.append_assoc]
    rfl
  have enough : ((members l row).map memberText).length <
      (Utf8.encode (separated ((members l row).map memberText)) ++ byte '\x7d' :: rest).length + 1 := by
    rw [List.length_append, List.length_cons]
    cases (members l row).map memberText with
    | nil => exact Nat.succ_pos _
    | cons item items =>
      rw [separated_cons, Utf8.encode_append, List.length_append, List.length_cons]
      have later := length_le_items items
      omega
  obtain ⟨seen, all, read⟩ := readMembers_members distinct row enough rest
  rw [text]
  have object : readObject l (Utf8.encode (separated ((members l row).map memberText)) ++ byte '\x7d' :: rest) =
      .ok (Row.readBack l row, rest) := by
    simp only [readObject, bind, Except.bind, read, Slots.finish_taken row all]
    rfl
  exact object

section Stored

variable {α : Type} [Stored α]

/-- The record that is read back for a written one. -/
def readBack (a : α) : α := Stored.ofRow (Row.readBack (Stored.layout α) (Stored.toRow a))

private theorem read_text (a : α) (rest : Bytes) : read (Utf8.encode (text a) ++ rest) = .ok (readBack a, rest) := by
  rw [read, text, readRow_members _ Stored.distinct]
  rfl

theorem decode_encode (a : α) : decode (encode a) = .ok (readBack a) := by
  have whole := read_text a []
  rw [List.append_nil] at whole
  rw [decode, readWhole, encode, whole]
  rfl

private theorem encode_text (a : α) (rest : Bytes) :
    ∃ more, Utf8.encode (text a) ++ rest = byte '\x7b' :: more := ⟨_, rfl⟩

private theorem readElements_texts (as : List α) (fuel : Nat) (enough : as.length < fuel) (rest : Bytes) :
    readElements fuel false (Utf8.encode ((as.map text).flatMap (',' :: ·)) ++ byte ']' :: rest) =
      .ok (as.map readBack, rest) := by
  induction as generalizing fuel with
  | nil =>
    obtain ⟨fuel, rfl⟩ : ∃ n, fuel = n + 1 := ⟨fuel - 1, by simp at enough; omega⟩
    rfl
  | cons a as ih =>
    obtain ⟨fuel, rfl⟩ : ∃ n, fuel = n + 1 := ⟨fuel - 1, by simp at enough; omega⟩
    have tail := ih fuel (by simp at enough; omega)
    have split : Utf8.encode (((a :: as).map text).flatMap (',' :: ·)) ++ byte ']' :: rest =
        byte ',' :: (Utf8.encode (text a) ++
          (Utf8.encode ((as.map text).flatMap (',' :: ·)) ++ byte ']' :: rest)) := by
      rw [List.map_cons, List.flatMap_cons, Utf8.encode_append, List.append_assoc]
      rfl
    have first := read_text a (Utf8.encode ((as.map text).flatMap (',' :: ·)) ++ byte ']' :: rest)
    obtain ⟨more, brace⟩ := encode_text a (Utf8.encode ((as.map text).flatMap (',' :: ·)) ++ byte ']' :: rest)
    rw [split, brace]
    rw [brace] at first
    have next : nextElement false (byte ',' :: byte '\x7b' :: more) = .ok (true, byte '\x7b' :: more) := rfl
    simp only [readElements, next, bind, Except.bind, if_true, first, tail]
    rfl

private theorem readRecords_listText (as : List α) (rest : Bytes) :
    readRecords (Utf8.encode (listText (as.map text)) ++ rest) = .ok (as.map readBack, rest) := by
  have split : Utf8.encode (listText (as.map text)) ++ rest =
      byte '[' :: (Utf8.encode (separated (as.map text)) ++ byte ']' :: rest) := by
    rw [listText, Utf8.encode_append, List.append_assoc]
    rfl
  rw [split]
  cases as with
  | nil => rfl
  | cons a as =>
    rw [List.map_cons, separated_cons, Utf8.encode_append, List.append_assoc]
    have first := read_text a (Utf8.encode ((as.map text).flatMap (',' :: ·)) ++ byte ']' :: rest)
    have long := length_le_items (as.map text)
    rw [List.length_map] at long
    have enough : as.length < (Utf8.encode (text a) ++
        (Utf8.encode ((as.map text).flatMap (',' :: ·)) ++ byte ']' :: rest)).length := by
      simp only [List.length_append, List.length_cons]
      omega
    have tail := readElements_texts as _ enough rest
    obtain ⟨more, brace⟩ := encode_text a (Utf8.encode ((as.map text).flatMap (',' :: ·)) ++ byte ']' :: rest)
    rw [brace] at first tail ⊢
    have list : skipSpace (byte '[' :: byte '\x7b' :: more) = byte '[' :: byte '\x7b' :: more := rfl
    have next : nextElement true (byte '\x7b' :: more) = .ok (true, byte '\x7b' :: more) := rfl
    simp only [readRecords, list, if_true, readElements, next, bind, Except.bind, first, tail]
    rfl

theorem decodeList_encodeList (as : List α) : decodeList (encodeList as) = .ok (as.map readBack) := by
  have whole := readRecords_listText as []
  rw [List.append_nil] at whole
  rw [decodeList, readWhole, encodeList, whole]
  rfl

end Stored

end ClusterRegister.Record
