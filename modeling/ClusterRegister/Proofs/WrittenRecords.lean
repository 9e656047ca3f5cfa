import ClusterRegister.Proofs.RecordSchema

/-!
# Written records as trees

The tree of the text in which a record is written: an object whose members are the columns of the record. So what is
known of all objects is known of written records, also how they are read under another layout (`decode_encode_as`).
-/

namespace ClusterRegister.Json

/-- The last hexadecimal digit of a number. -/
def HexDigit.ofNat (n : Nat) : HexDigit := ⟨⟨n % 16, Nat.mod_lt n (by decide)⟩, false⟩

/-- A character of a string in the form in which it is written. -/
def Piece.ofChar (c : Char) : Piece :=
  if alone : Unescaped c then .plain c alone
  else if c = '\x22' then .short .quote
  else if c = '\\' then .short .backslash
  else if c.toNat = 0x08 then .short .backspace
  else if c.toNat = 0x0C then .short .formFeed
  else if c = '\n' then .short .lineFeed
  else if c = '\r' then .short .carriageReturn
  else if c = '\t' then .short .tab
  else .unit ⟨.ofNat 0, .ofNat 0, .ofNat (c.toNat / 16), .ofNat c.toNat⟩

/-- The string of a text in the form in which it is written. -/
def Literal.ofText (cs : List Char) : Literal := cs.map Piece.ofChar

/-- The character that a piece stands for by itself. -/
def Piece.alone? : Piece → Option Char
  | .plain c _ => some c
  | .short e => some e.meaning
  | .unit u => if isSurrogate u.value then none else some (Char.ofNat u.value)

theorem Literal.content?_cons {p : Piece} {c : Char} (stands : p.alone? = some c) (ps : Literal) :
    Literal.content? (p :: ps) = (Literal.content? ps).map (c :: ·) := by
  cases p with
  | plain d _ => cases stands; rfl
  | short e => cases stands; rfl
  | unit u =>
    rw [Piece.alone?] at stands
    cases surrogate : isSurrogate u.value with
    | true => rw [surrogate] at stands; cases stands
    | false =>
      rw [surrogate] at stands
      cases stands
      rw [Literal.content?.eq_def]
      simp only [surrogate, Bool.false_eq_true, if_false]

/-- A character is written as a piece that stands for it: quotes, backslashes and the control characters of ASCII as
escapes, all others as they are. -/
theorem Piece.ofChar_spec (c : Char) : (Piece.ofChar c).text = escapedChar c ∧ (Piece.ofChar c).alone? = some c := by
  have controls : ∀ n < 0x20, (Piece.ofChar (Char.ofNat n)).text = escapedChar (Char.ofNat n) ∧
      (Piece.ofChar (Char.ofNat n)).alone? = some (Char.ofNat n) := by decide
  by_cases quote : c = '\x22'
  · subst quote
    exact ⟨by decide, by decide⟩
  by_cases backslash : c = '\\'
  · subst backslash
    exact ⟨by decide, by decide⟩
  by_cases control : c.toNat < 0x20
  · have form := controls c.toNat control
    rwa [Char.ofNat_toNat] at form
  · have no_number (n : Nat) (small : n < 0x20) : ¬ c.toNat = n := fun same => control (same ▸ small)
    have no_char (d : Char) (small : d.toNat < 0x20) : ¬ c = d := fun same => control (same ▸ small)
    have piece : Piece.ofChar c = .plain c ⟨quote, backslash, control⟩ := dif_pos _
    refine ⟨?_, by rw [piece]; rfl⟩
    rw [piece, escapedChar, if_neg (by simp [quote, backslash]), if_neg (no_number _ (by decide)),
      if_neg (no_number _ (by decide)), if_neg (no_char _ (by decide)), if_neg (no_char _ (by decide)),
      if_neg (no_char _ (by decide)), if_neg control]
    rfl

theorem Literal.content?_ofText (cs : List Char) : Literal.content? (.ofText cs) = some cs := by
  induction cs with
  | nil => rfl
  | cons c cs ih =>
    rw [Literal.ofText, List.map_cons, Literal.content?_cons (Piece.ofChar_spec c).2, ← Literal.ofText, ih]
    rfl

theorem Literal.string?_ofText (cs : List Char) : Literal.string? (.ofText cs) = some (String.ofList cs) := by
  rw [Literal.string?, Literal.content?_ofText]
  rfl

theorem Literal.text_ofText (cs : List Char) : Literal.text (.ofText cs) = stringText cs := by
  rw [Literal.text, Literal.body, Literal.ofText, List.flatMap_map, stringText, List.cons_append]
  simp only [(Piece.ofChar_spec _).1]

/-- Members without white space, their keys as they are written. -/
def Members.ofFields : List (String × Value) → Members
  | [] => .none
  | (key, v) :: fields => .more [] (.ofText key.toList) [] [] v [] (ofFields fields)

theorem Members.fields?_ofFields (fields : List (String × Value)) :
    (Members.ofFields fields).fields? = some fields := by
  induction fields with
  | nil => rfl
  | cons field fields ih =>
    obtain ⟨key, v⟩ := field
    rw [Members.ofFields, Members.fields?, Literal.string?_ofText, ih, String.ofList_toList]
    rfl

/-- The key and the value of a member as they are written. -/
def memberForm (field : String × Value) : List Char := stringText field.1.toList ++ ':' :: field.2.text

theorem Members.text_ofFields (fields : List (String × Value)) :
    (Members.ofFields fields).text false = (fields.map memberForm).flatMap (',' :: ·) := by
  induction fields with
  | nil => rfl
  | cons field fields ih =>
    obtain ⟨key, v⟩ := field
    rw [Members.ofFields, Members.text, ih, Literal.text_ofText, List.map_cons, List.flatMap_cons, memberForm]
    simp [Space.text]

theorem Members.text_ofFields_first (fields : List (String × Value)) :
    (Members.ofFields fields).text true = separated (fields.map memberForm) := by
  cases fields with
  | nil => rfl
  | cons field fields =>
    obtain ⟨key, v⟩ := field
    rw [Members.ofFields, Members.text, Members.text_ofFields, Literal.text_ofText, List.map_cons,
      Record.separated_cons, memberForm]
    simp [Space.text]

end ClusterRegister.Json

namespace ClusterRegister.Record

open ClusterRegister.Json ClusterRegister.Calendar

/-- The tree of a written value. -/
def Kind.tree : (k : Kind) → k.Value → Json.Value
  | .text, s => .string (.ofText s.toList)
  | .path, s => .string (.ofText s.toList)
  | .port, n => .number ⟨false, n.toNat, none, none⟩
  | .role, r => .string (.ofText r.name.toList)
  | .instant, t => .string (.ofText t.text)

theorem Kind.text_tree (k : Kind) (v : k.Value) : (k.tree v).text = k.write v := by
  cases k with
  | port =>
    show NumberText.text _ = Text.decimal _
    simp [NumberText.text, NumberText.unsigned, NumberText.scale]
  | _ => exact Literal.text_ofText _

/-- The keys and the trees of a row, without the columns that are left out. -/
def fieldsOf : (l : Layout) → Row l → List (String × Json.Value)
  | [], () => []
  | c :: cs, (v, rest) =>
    if c.leaveOut && c.absent = some v then fieldsOf cs rest else (c.key, c.kind.tree v) :: fieldsOf cs rest

private theorem members_eq_fieldsOf (l : Layout) (row : Row l) :
    members l row = (fieldsOf l row).map fun field => (field.1, field.2.text) := by
  induction l with
  | nil => rfl
  | cons c cs ih =>
    obtain ⟨v, rest⟩ := row
    rw [members, fieldsOf]
    split
    · exact ih rest
    · rw [List.map_cons, Kind.text_tree, ih]

section Stored

variable {α : Type} [Stored α]

/-- The object in which a record is written. -/
def written (a : α) : ObjectText := ⟨[], [], .ofFields (fieldsOf (Stored.layout α) (Stored.toRow a)), []⟩

private theorem text_written (a : α) : (written a).text = text a := by
  have object : (written a).text =
      '\x7b' :: (Members.text (.ofFields (fieldsOf (Stored.layout α) (Stored.toRow a))) true ++ ['\x7d']) :=
    List.append_nil _
  rw [object, Members.text_ofFields_first, text, members_eq_fieldsOf, objectText, List.map_map]
  rfl

/-- A written record read as one of another type: only the columns of that type matter. -/
theorem decode_encode_as {β : Type} [Stored β] (a : α) :
    (decode (encode a) : Except Malformed β).toOption =
      (row? (Stored.layout β) (fieldsOf (Stored.layout α) (Stored.toRow a))).map Stored.ofRow := by
  have named : (written a).fields? = some (fieldsOf (Stored.layout α) (Stored.toRow a)) := Members.fields?_ofFields _
  rw [encode, ← text_written, decode_object, named, Option.bind_some]

end Stored

end ClusterRegister.Record
