import ClusterRegister.Proofs.JsonMeaning
import ClusterRegister.Topology

/-!
# Schemas of stored records

Which objects are read as which records. The members fill the slots of their columns one by one, each column
is filled apart from the others, and so only the members under its key matter to it, wherever they stand
(`objects_read_by_schema`). All keys are read, also those that no column has: an object with a key that stands for no
text is not read at all.
-/

namespace ClusterRegister.Json

/-- The keys and the values of members, if all keys stand for texts. -/
def Members.fields? : Members → Option (List (String × Value))
  | .none => some []
  | .more _ key _ _ v _ rest =>
    key.string?.bind fun name => rest.fields?.map fun fields => (name, v) :: fields

/-- The number of members. -/
def Members.length : Members → Nat
  | .none => 0
  | .more _ _ _ _ _ _ rest => rest.length + 1

theorem Members.length_le (ms : Members) (first : Bool) : ms.length ≤ (ms.text first).length := by
  cases ms with
  | none => exact Nat.zero_le _
  | more before key afterKey beforeValue v after ms =>
    have later := ms.length_le false
    simp only [Members.length, Members.text, Literal.text, List.length_append, List.length_cons]
    omega

/-- The text of an object with white space around it. -/
structure ObjectText where
  lead : Space
  inside : Space
  members : Members
  trail : Space

def ObjectText.text (o : ObjectText) : List Char :=
  o.lead.text ++ (Value.object o.inside o.members).text ++ o.trail.text

/-- The keys and the values of an object. It has none if one of its keys has an unpaired surrogate, and so stands for no
text. -/
def ObjectText.fields? (o : ObjectText) : Option (List (String × Value)) := o.members.fields?

end ClusterRegister.Json

namespace ClusterRegister.Record

open ClusterRegister.Json ClusterRegister.Calendar

/-! ### Filling slots -/

/-- What a value stands for as one of a kind, if it stands for one. -/
def Kind.value? : (k : Kind) → Json.Value → Option k.Value
  | .text, v => v.string?
  | .path, v => v.string?
  | .port, v => v.port?
  | .role, v => v.role?
  | .instant, v => v.instant?

theorem Kind.read_value (k : Kind) (before : Space) (v : Json.Value) {rest : Bytes} (ends : EndsNumber rest) :
    (k.read (Utf8.encode before.text ++ (Utf8.encode v.text ++ rest))).toOption =
      (k.value? v).map fun x => (x, rest) := by
  cases k with
  | text => exact readString_value before v rest _
  | path => exact readString_value before v rest _
  | port => exact readPort_value before v rest ends
  | role => exact readRole_value before v rest
  | instant => exact readInstant_value before v rest

/-- The slot of a column after a field: a field under its key fills it, if it was empty. -/
def Column.put (c : Column) (slot : Option c.kind.Value) (field : String × Value) :
    Option (Option c.kind.Value) :=
  if field.1 = c.key then
    match slot with
    | some _ => none
    | none => (c.kind.value? field.2).map some
  else some slot

/-- The slots after a field, which goes to the first column of its key. -/
def Slots.put : (l : Layout) → Slots l → String × Value → Option (Slots l)
  | [], (), _ => some ()
  | c :: cs, (slot, rest), field =>
    if field.1 = c.key then (c.put slot field).map fun slot => (slot, rest)
    else (Slots.put cs rest field).map fun rest => (slot, rest)

section Reading

variable (l : Layout) (slots : Slots l) {rest : Bytes}

/-- A key that no column has changes no slot; the value under another key is read into its slot. -/
theorem fill_text (name : String) (afterKey beforeValue : Space) (v : Value) (ends : EndsNumber rest) :
    let s := Utf8.encode afterKey.text ++
      (byte ':' :: (Utf8.encode beforeValue.text ++ (Utf8.encode v.text ++ rest)))
    Slots.fill l slots name s = none ∧ Slots.put l slots (name, v) = some slots ∨
      ∃ filled, Slots.fill l slots name s = some filled ∧
        filled.toOption = (Slots.put l slots (name, v)).map fun slots => (slots, rest) := by
  intro s
  induction l with
  | nil => exact .inl ⟨rfl, rfl⟩
  | cons c cs ih =>
    obtain ⟨slot, others⟩ := slots
    by_cases here : name = c.key
    · refine .inr ?_
      simp only [Slots.fill, Slots.put, here, if_true]
      cases slot with
      | some x => exact ⟨_, rfl, by simp only [Column.put, if_true]; rfl⟩
      | none =>
        refine ⟨_, rfl, ?_⟩
        rw [readColon_text, toOption_bind, toOption_ok, Option.bind_some, toOption_bind,
          Kind.read_value c.kind beforeValue v ends]
        simp only [Column.put, if_true]
        cases c.kind.value? v <;> rfl
    · simp only [Slots.fill, Slots.put, here, if_false]
      rcases ih others with ⟨no_fill, no_put⟩ | ⟨filled, fills, put⟩
      · exact .inl ⟨by rw [no_fill]; rfl, by rw [no_put]; rfl⟩
      · refine .inr ⟨_, by rw [fills]; rfl, ?_⟩
        rw [toOption_bind, put]
        cases Slots.put cs others (name, v) <;> rfl

/-- A member is put into the slots, if its key stands for a text. -/
theorem readMember_text (key : Literal) (afterKey beforeValue : Space) (v : Value) (ends : EndsNumber rest) :
    (readMember l slots (Utf8.encode key.body ++ (Utf8.encode afterKey.text ++
        (byte ':' :: (Utf8.encode beforeValue.text ++ (Utf8.encode v.text ++ rest)))))).toOption =
      (key.string?.bind fun name => Slots.put l slots (name, v)).map fun slots => (slots, rest) := by
  rw [readMember, toOption_bind, scanString_body]
  cases key.string? with
  | none => rfl
  | some name =>
    simp only [Option.map_some, Option.bind_some]
    rcases fill_text l slots name afterKey beforeValue v ends with ⟨no_fill, no_put⟩ | ⟨filled, fills, put⟩
    · rw [no_fill, no_put]
      simp only [readColon_text, bind, Except.bind, skipValue_text beforeValue v ends]
      rfl
    · rw [fills]
      exact put

end Reading

/-- A member is put into the slots, after a comma if it is not the first, and then the others are. -/
private theorem readMembers_more (l : Layout) (slots : Slots l) (fuel : Nat) (first : Bool) (w before : Space)
    (key : Literal) (afterKey beforeValue : Space) (v : Value) (after : Space) (ms : Members) (rest : Bytes) :
    (readMembers l (fuel + 1) first slots (Utf8.encode w.text ++
        (Utf8.encode ((Members.more before key afterKey beforeValue v after ms).text first) ++
          byte '\x7d' :: rest))).toOption =
      (key.string?.bind fun name => Slots.put l slots (name, v)).bind fun slots =>
        (readMembers l fuel false slots
          (Utf8.encode after.text ++ (Utf8.encode (ms.text false) ++ byte '\x7d' :: rest))).toOption := by
  have opening (s : Bytes) : skipSpace (byte '\x22' :: s) = byte '\x22' :: s := rfl
  have comma (s : Bytes) : skipSpace (byte ',' :: s) = byte ',' :: s := rfl
  have not_close : byte '\x22' ≠ byte '\x7d' ∧ byte ',' ≠ byte '\x7d' := by decide
  have member := readMember_text l slots key afterKey beforeValue v (endsNumber_members after ms rest)
  cases first with
  | true =>
    simp only [readMembers, skipSpace_text, encode_members, opening, not_close.1, if_false, if_true,
      toOption_bind, member]
    cases key.string?.bind fun name => Slots.put l slots (name, v) <;> rfl
  | false =>
    simp only [readMembers, skipSpace_text, encode_comma_members, encode_members, comma, opening,
      not_close.2, if_false, if_true, Bool.false_eq_true, toOption_bind, member]
    cases key.string?.bind fun name => Slots.put l slots (name, v) <;> rfl

/-- The members of an object are put into the slots one after the other, if all their keys stand for texts. -/
theorem readMembers_text (l : Layout) (slots : Slots l) (ms : Members) (first : Bool) (w : Space) {fuel : Nat}
    (enough : ms.length < fuel) (rest : Bytes) :
    (readMembers l fuel first slots
        (Utf8.encode w.text ++ (Utf8.encode (ms.text first) ++ byte '\x7d' :: rest))).toOption =
      (ms.fields?.bind fun fields => fields.foldlM (Slots.put l) slots).map fun slots => (slots, rest) := by
  obtain ⟨fuel, rfl⟩ : ∃ n, fuel = n + 1 := ⟨fuel - 1, by omega⟩
  -- `w` is what the last value left before the comma
  cases ms with
  | none =>
    rw [readMembers, skipSpace_text]
    rfl
  | more before key afterKey beforeValue v after ms =>
    have enough' : ms.length < fuel := by
      simp only [Members.length] at enough
      omega
    have later (slots : Slots l) := readMembers_text l slots ms false after enough' rest
    rw [readMembers_more, Members.fields?]
    cases key.string? with
    | none => rfl
    | some name =>
      simp only [Option.bind_some, later]
      cases ms.fields? with
      | none => cases Slots.put l slots (name, v) <;> rfl
      | some fields =>
        simp only [Option.map_some, Option.bind_some, List.foldlM_cons]
        cases Slots.put l slots (name, v) <;> rfl

/-! ### Columns apart from each other -/

/-- The value of a column: what stands under its key, if the key is there once, and otherwise what stands for
an absent value. -/
def Column.value? (c : Column) (fields : List (String × Value)) : Option c.kind.Value :=
  match fields.filter (·.1 = c.key) with
  | [] => c.absent
  | [field] => c.kind.value? field.2
  | _ => none

/-- The row of an object, if all its columns have values. -/
def row? : (l : Layout) → List (String × Value) → Option (Row l)
  | [], _ => some ()
  | c :: cs, fields => (c.value? fields).bind fun v => (row? cs fields).map fun rest => (v, rest)

section Columns

variable {c : Column} {cs : Layout}

private theorem foldlM_put_some (x : c.kind.Value) (fields : List (String × Value)) :
    fields.foldlM c.put (some x) = if fields.filter (·.1 = c.key) = [] then some (some x) else none := by
  induction fields with
  | nil => rfl
  | cons field fields ih =>
    rw [List.foldlM_cons]
    by_cases here : field.1 = c.key
    · simp only [Column.put, here, if_true, List.filter_cons, decide_true]
      rfl
    · simp only [Column.put, here, if_false, List.filter_cons, decide_false, Bool.false_eq_true]
      exact ih

private theorem foldlM_put_none (fields : List (String × Value)) :
    fields.foldlM c.put none =
      match fields.filter (·.1 = c.key) with
      | [] => some none
      | [field] => (c.kind.value? field.2).map some
      | _ => none := by
  induction fields with
  | nil => rfl
  | cons field fields ih =>
    rw [List.foldlM_cons]
    by_cases here : field.1 = c.key
    · have later := fun x => foldlM_put_some (c := c) x fields
      simp only [Column.put, here, if_true, List.filter_cons, decide_true]
      cases more : fields.filter (·.1 = c.key) with
      | nil =>
        simp only [more, if_true] at later
        cases stands : c.kind.value? field.2 with
        | none => simp only [stands]; rfl
        | some x => simp only [stands]; exact later x
      | cons another others =>
        simp only [more, reduceCtorEq, if_false] at later
        cases c.kind.value? field.2 with
        | none => rfl
        | some x => exact later x
    · simp only [Column.put, here, if_false, List.filter_cons, decide_false, Bool.false_eq_true]
      exact ih

private theorem value?_eq_foldlM (c : Column) (fields : List (String × Value)) :
    c.value? fields = (fields.foldlM c.put none).bind fun slot => slot.or c.absent := by
  rw [foldlM_put_none, Column.value?]
  cases fields.filter (·.1 = c.key) with
  | nil => rfl
  | cons field more =>
    cases more with
    | nil =>
      show c.kind.value? field.2 = ((c.kind.value? field.2).map some).bind fun slot => slot.or c.absent
      cases c.kind.value? field.2 <;> rfl
    | cons => rfl

private theorem put_other {field : String × Value} (other : field.1 ∉ cs.map (·.key)) (slots : Slots cs) :
    Slots.put cs slots field = some slots := by
  induction cs with
  | nil => rfl
  | cons c cs ih =>
    obtain ⟨slot, rest⟩ := slots
    simp only [List.map_cons, List.mem_cons, not_or] at other
    rw [Slots.put, if_neg other.1, ih other.2]
    rfl

/-- The first column is filled apart from the others. -/
theorem foldlM_put_cons (alone : c.key ∉ cs.map (·.key)) (slot : Option c.kind.Value) (rest : Slots cs)
    (fields : List (String × Value)) :
    fields.foldlM (Slots.put (c :: cs)) (slot, rest) =
      (fields.foldlM c.put slot).bind fun slot => (fields.foldlM (Slots.put cs) rest).map fun rest => (slot, rest) := by
  induction fields generalizing slot rest with
  | nil => rfl
  | cons field fields ih =>
    rw [List.foldlM_cons, List.foldlM_cons, List.foldlM_cons, Slots.put]
    by_cases here : field.1 = c.key
    · rw [if_pos here, put_other (by rw [here]; exact alone)]
      cases c.put slot field with
      | none => rfl
      | some slot => exact ih slot rest
    · rw [if_neg here, show c.put slot field = some slot from if_neg here]
      cases Slots.put cs rest field with
      | none =>
        show none = (fields.foldlM c.put slot).bind fun _ => none
        cases fields.foldlM c.put slot <;> rfl
      | some rest => exact ih slot rest

end Columns

private theorem foldlM_put_nil (fields : List (String × Value)) : fields.foldlM (Slots.put []) () = some () := by
  induction fields with
  | nil => rfl
  | cons field fields ih => exact ih

private theorem finish_cons (c : Column) (cs : Layout) (slot : Option c.kind.Value) (rest : Slots cs) :
    (Slots.finish (c :: cs) (slot, rest)).toOption =
      (slot.or c.absent).bind fun v => (Slots.finish cs rest).toOption.map fun rest => (v, rest) := by
  rw [Slots.finish]
  cases slot.or c.absent with
  | none => rfl
  | some v => cases Slots.finish cs rest <;> rfl

/-- Slots that were filled one after the other make a row if every column has a value by itself. -/
theorem finish_foldlM {l : Layout} (distinct : (l.map (·.key)).Nodup) (fields : List (String × Value)) :
    ((fields.foldlM (Slots.put l) (Slots.none l)).bind fun slots => (Slots.finish l slots).toOption) =
      row? l fields := by
  induction l with
  | nil =>
    rw [Slots.none, foldlM_put_nil]
    rfl
  | cons c cs ih =>
    rw [List.map_cons, List.nodup_cons] at distinct
    rw [Slots.none, foldlM_put_cons distinct.1, row?, value?_eq_foldlM, ← ih distinct.2]
    cases fields.foldlM c.put none with
    | none => rfl
    | some slot =>
      cases fields.foldlM (Slots.put cs) (Slots.none cs) with
      | none =>
        show none = (slot.or c.absent).bind fun _ => none
        cases slot.or c.absent <;> rfl
      | some rest => exact finish_cons c cs slot rest

private theorem readObject_text {l : Layout} (distinct : (l.map (·.key)).Nodup) (ms : Members) (inside : Space)
    (rest : Bytes) :
    (readObject l (Utf8.encode inside.text ++ (Utf8.encode (ms.text true) ++ byte '\x7d' :: rest))).toOption =
      (ms.fields?.bind (row? l)).map fun row => (row, rest) := by
  have characters := ms.length_le true
  have bytes := length_le_encode (ms.text true)
  rw [readObject, toOption_bind,
    readMembers_text l (Slots.none l) ms true inside (by simp only [List.length_append]; omega) rest]
  cases ms.fields? with
  | none => rfl
  | some fields =>
    rw [Option.bind_some, Option.bind_some, ← finish_foldlM distinct]
    cases fields.foldlM (Slots.put l) (Slots.none l) with
    | none => rfl
    | some slots =>
      simp only [Option.map_some, Option.bind_some]
      cases Slots.finish l slots <;> rfl

section Stored

variable {α : Type} [Stored α]

/-- A row that is read up to white space at the end of a text is the record of the text. -/
theorem decode_of_readRow {text : Bytes} {row : Option (Row (Stored.layout α))} (trail : Space)
    (rows : (readRow (Stored.name α) (Stored.layout α) text).toOption =
      row.map fun row => (row, Utf8.encode trail.text)) :
    (decode text : Except Malformed α).toOption = row.map Stored.ofRow := by
  have trailing : skipSpace (Utf8.encode trail.text) = [] := by
    rw [← List.append_nil (Utf8.encode trail.text), skipSpace_text]
    rfl
  rw [decode, readWhole, read]
  cases found : readRow (Stored.name α) (Stored.layout α) text with
  | error fault =>
    rw [found] at rows
    rw [Option.map_eq_none_iff.1 rows.symm]
    rfl
  | ok pair =>
    rw [found] at rows
    obtain ⟨row', rfl, rfl⟩ := Option.map_eq_some_iff.1 rows.symm
    simp only [bind, Except.bind, pure, Except.pure, trailing]
    rfl

/-- An object is read as the record of its row, whatever white space is around it. -/
theorem decode_object (o : ObjectText) :
    (decode (Utf8.encode o.text) : Except Malformed α).toOption =
      (o.fields?.bind (row? (Stored.layout α))).map Stored.ofRow := by
  have text : Utf8.encode o.text =
      Utf8.encode o.lead.text ++ (Utf8.encode (Value.object o.inside o.members).text ++ Utf8.encode o.trail.text) := by
    simp only [ObjectText.text, Utf8.encode_append, List.append_assoc]
  have not_list : byte '\x7b' ≠ byte '[' := by decide
  refine decode_of_readRow o.trail ?_
  rw [readRow, text, skipSpace_value, encode_object]
  simp only [not_list, if_false, if_true]
  exact readObject_text (Stored.distinct (α := α)) o.members o.inside (Utf8.encode o.trail.text)

end Stored

section Given

variable {fields : List (String × Value)}

/-- Under a key, an object has a value of a kind that stands for `x`. -/
def Gives (k : Kind) (fields : List (String × Value)) (key : String) (x : k.Value) : Prop :=
  ∃ v, (key, v) ∈ fields ∧ k.value? v = some x

/-- An object gives `x` under a key, or lacks the key, and `x` is the value that stands for an absent one. -/
def MayGive (k : Kind) (fields : List (String × Value)) (key : String) (absent x : k.Value) : Prop :=
  Gives k fields key x ∨ (∀ v, (key, v) ∉ fields) ∧ absent = x

/-- An object gives a column its value, under its key or by lacking the key. -/
def Column.Given (c : Column) (fields : List (String × Value)) (x : c.kind.Value) : Prop :=
  Gives c.kind fields c.key x ∨ (∀ v, (c.key, v) ∉ fields) ∧ c.absent = some x

/-- An object gives all columns their values. -/
def RowGiven (fields : List (String × Value)) : (l : Layout) → Row l → Prop
  | [], () => True
  | c :: cs, (x, rest) => c.Given fields x ∧ RowGiven fields cs rest

private theorem given_required {c : Column} (required : c.absent = none) {x : c.kind.Value} :
    c.Given fields x ↔ Gives c.kind fields c.key x := by
  rw [Column.Given, required]
  constructor
  · rintro (given | ⟨-, default⟩)
    · exact given
    · cases default
  · exact .inl

theorem given_optional {c : Column} {absent x : c.kind.Value} (optional : c.absent = some absent) :
    c.Given fields x ↔ MayGive c.kind fields c.key absent x := by
  rw [Column.Given, optional, Option.some.injEq]
  rfl

theorem length_filter_key (fields : List (String × Value)) (key : String) :
    (fields.filter (·.1 = key)).length = (fields.map (·.1)).count key := by
  rw [List.count_eq_countP, List.countP_map, List.countP_eq_length_filter]
  rfl

private theorem mem_filter_key {key : String} {field : String × Value} :
    field ∈ fields.filter (·.1 = key) ↔ field ∈ fields ∧ field.1 = key := by
  rw [List.mem_filter, decide_eq_true_eq]

/-- Where keys are distinct, a column has the value that is given under its key. -/
theorem value?_eq_some_iff (distinct : (fields.map (·.1)).Nodup) {c : Column} {x : c.kind.Value} :
    c.value? fields = some x ↔ c.Given fields x := by
  have once : (fields.filter (·.1 = c.key)).length ≤ 1 := by
    rw [length_filter_key]
    exact List.nodup_iff_count.1 distinct c.key
  rw [Column.value?]
  cases under : fields.filter (·.1 = c.key) with
  | nil =>
    have absent : ∀ v, (c.key, v) ∉ fields := by
      intro v member
      have there := mem_filter_key.2 ⟨member, rfl⟩
      rw [under] at there
      cases there
    constructor
    · exact fun default => .inr ⟨absent, default⟩
    · rintro (⟨v, member, -⟩ | ⟨-, default⟩)
      · exact absurd member (absent v)
      · exact default
  | cons field more =>
    rw [under, List.length_cons] at once
    obtain rfl : more = [] := List.eq_nil_of_length_eq_zero (by omega)
    have there : field ∈ fields ∧ field.1 = c.key := mem_filter_key.1 (by rw [under]; exact .head _)
    obtain ⟨key, v⟩ := field
    obtain ⟨member, rfl⟩ := there
    constructor
    · exact fun stands => .inl ⟨v, member, stands⟩
    · rintro (⟨w, other, stands⟩ | ⟨absent, -⟩)
      · have same := mem_filter_key.2 ⟨other, rfl⟩
        rw [under, List.mem_singleton] at same
        cases same
        exact stands
      · exact absurd member (absent v)

theorem row?_eq_some_iff (distinct : (fields.map (·.1)).Nodup) {l : Layout} {row : Row l} :
    row? l fields = some row ↔ RowGiven fields l row := by
  induction l with
  | nil => exact ⟨fun _ => trivial, fun _ => rfl⟩
  | cons c cs ih =>
    obtain ⟨x, rest⟩ := row
    rw [RowGiven, ← value?_eq_some_iff distinct, ← ih, row?]
    cases c.value? fields with
    | none => simp
    | some y => cases row? cs fields <;> simp

end Given

section Unordered

variable {fields fields' : List (String × Value)}

/-- The members whose keys a layout has. -/
def known (l : Layout) (fields : List (String × Value)) : List (String × Value) :=
  fields.filter (·.1 ∈ l.map (·.key))

theorem filter_known {l : Layout} {key : String} (has : key ∈ l.map (·.key)) (fields : List (String × Value)) :
    (known l fields).filter (·.1 = key) = fields.filter (·.1 = key) := by
  rw [known, List.filter_filter]
  refine List.filter_congr fun field _ => ?_
  by_cases here : field.1 = key
  · simp only [here, has, decide_true, Bool.and_self]
  · simp only [here, decide_false, Bool.false_and]

/-- A column has the same value for the same members under its key, in any order. -/
theorem value?_perm {c : Column} (same : (fields.filter (·.1 = c.key)).Perm (fields'.filter (·.1 = c.key))) :
    c.value? fields = c.value? fields' := by
  rw [Column.value?, Column.value?]
  have lengths := same.length_eq
  cases under : fields.filter (·.1 = c.key) with
  | nil =>
    rw [under] at same
    rw [List.nil_perm.1 same]
  | cons field more =>
    cases more with
    | nil =>
      rw [under] at same
      rw [List.singleton_perm.1 same]
    | cons another others =>
      rw [under] at lengths
      cases under' : fields'.filter (·.1 = c.key) with
      | nil => rw [under'] at lengths; cases lengths
      | cons field' more' =>
        cases more' with
        | nil => rw [under'] at lengths; cases lengths
        | cons => rfl

theorem row?_congr {l : Layout} (same : ∀ c ∈ l, c.value? fields = c.value? fields') :
    row? l fields = row? l fields' := by
  induction l with
  | nil => rfl
  | cons c cs ih => rw [row?, row?, same c (.head _), ih fun d later => same d (.tail _ later)]

private theorem row?_perm {l : Layout} (same : (known l fields).Perm (known l fields')) :
    row? l fields = row? l fields' := by
  refine row?_congr fun c member => value?_perm ?_
  have has : c.key ∈ l.map (·.key) := List.mem_map.2 ⟨c, member, rfl⟩
  rw [← filter_known has fields, ← filter_known has fields']
  exact same.filter _

theorem value?_repeated {c : Column} (again : 1 < (fields.map (·.1)).count c.key) : c.value? fields = none := by
  rw [← length_filter_key] at again
  rw [Column.value?]
  cases under : fields.filter (·.1 = c.key) with
  | nil =>
    rw [under] at again
    cases again
  | cons field more =>
    cases more with
    | nil =>
      rw [under] at again
      exact absurd again (Nat.lt_irrefl 1)
    | cons => rfl

theorem row?_none {l : Layout} {c : Column} (member : c ∈ l) (none : c.value? fields = none) :
    row? l fields = .none := by
  induction l with
  | nil => cases member
  | cons d cs ih =>
    rw [row?]
    rcases List.mem_cons.1 member with rfl | later
    · rw [none]
      rfl
    · rw [ih later]
      cases d.value? fields <;> rfl

end Unordered

/-! ### Schemas -/

/-- What it means that objects are read as records of a type by their members: which members fit which record,
whatever else the object has. -/
structure Schema (α : Type) [Stored α] (Fits : List (String × Value) → α → Prop) : Prop where
  /-- An object with distinct keys is read as a record if and only if its members fit the record. -/
  decodes : ∀ (o : ObjectText) fields, o.fields? = some fields → (fields.map (·.1)).Nodup →
    ∀ a : α, decode (Utf8.encode o.text) = .ok a ↔ Fits fields a
  /-- Objects with the same known members, in any order and among any others, are read as the same record,
  or none of them is read. -/
  unordered : ∀ (o o' : ObjectText) fields fields', o.fields? = some fields → o'.fields? = some fields' →
    (known (Stored.layout α) fields).Perm (known (Stored.layout α) fields') →
    (decode (Utf8.encode o.text) : Except Malformed α).toOption = (decode (Utf8.encode o'.text)).toOption
  /-- An object with a known key that stands there twice is rejected. -/
  repeated : ∀ (o : ObjectText) fields, o.fields? = some fields →
    ∀ key ∈ (Stored.layout α).map (·.key), 1 < (fields.map (·.1)).count key →
      ∃ malformed, (decode (Utf8.encode o.text) : Except Malformed α) = .error malformed
  /-- An object with a key that stands for no text is rejected. -/
  unnamed : ∀ o : ObjectText, o.fields? = none →
    ∃ malformed, (decode (Utf8.encode o.text) : Except Malformed α) = .error malformed

theorem Schema.of_row {α : Type} [Stored α] {Fits : List (String × Value) → α → Prop}
    (full : ∀ row, Stored.toRow (Stored.ofRow row : α) = row)
    (fits : ∀ fields (a : α), RowGiven fields (Stored.layout α) (Stored.toRow a) ↔ Fits fields a) : Schema α Fits := by
  refine ⟨?decodes, ?unordered, ?repeated, ?unnamed⟩
  case decodes =>
    intro o fields named distinct a
    rw [← toOption_eq_some_iff, decode_object, named, Option.bind_some, Option.map_eq_some_iff, ← fits,
      ← row?_eq_some_iff distinct]
    constructor
    · rintro ⟨row, found, rfl⟩
      rw [found, full]
    · intro found
      exact ⟨_, found, Stored.ofRow_toRow a⟩
  case unordered =>
    intro o o' fields fields' named named' same
    rw [decode_object, decode_object, named, named', Option.bind_some, Option.bind_some, row?_perm same]
  case repeated =>
    intro o fields named key has again
    obtain ⟨c, member, rfl⟩ := List.mem_map.1 has
    rw [← toOption_eq_none_iff, decode_object, named, Option.bind_some, row?_none member (value?_repeated again),
      Option.map_none]
  case unnamed =>
    intro o unnamed
    rw [← toOption_eq_none_iff, decode_object, unnamed, Option.bind_none, Option.map_none]

/-- The members of an object that is read as a host. -/
structure HostFields (fields : List (String × Value)) (h : Host) : Prop where
  id : MayGive .text fields "id" "" h.id
  ip : Gives .text fields "ip" h.ip
  sshUser : Gives .text fields "ssh_user" h.sshUser
  sshPort : Gives .port fields "ssh_port" h.sshPort
  clusterId : MayGive .text fields "cluster_id" "" h.clusterId

/-- The members of an object that is read as an instance. -/
structure InstanceFields (fields : List (String × Value)) (i : Instance) : Prop where
  id : MayGive .text fields "id" "" i.id
  host : Gives .text fields "host" i.host
  port : Gives .port fields "port" i.port
  role : Gives .role fields "role" i.role
  masterAddr : MayGive .text fields "master_addr" "" i.masterAddr
  clusterId : MayGive .text fields "cluster_id" "" i.clusterId

/-- The members of an object that is read as a cluster. -/
structure ClusterFields (fields : List (String × Value)) (c : Cluster) : Prop where
  id : Gives .text fields "id" c.id
  workerAddr : Gives .text fields "worker_addr" c.workerAddr
  createdAt : Gives .instant fields "created_at" c.createdAt

section Rows

variable {fields : List (String × Value)}

private theorem rowGiven_host (h : Host) :
    RowGiven fields (Stored.layout Host) (Stored.toRow h) ↔ HostFields fields h := by
  constructor
  · rintro ⟨id, ip, sshUser, sshPort, clusterId, -⟩
    exact ⟨(given_optional rfl).1 id, (given_required rfl).1 ip, (given_required rfl).1 sshUser,
      (given_required rfl).1 sshPort, (given_optional rfl).1 clusterId⟩
  · rintro ⟨id, ip, sshUser, sshPort, clusterId⟩
    exact ⟨(given_optional rfl).2 id, (given_required rfl).2 ip, (given_required rfl).2 sshUser,
      (given_required rfl).2 sshPort, (given_optional rfl).2 clusterId, trivial⟩

private theorem rowGiven_instance (i : Instance) :
    RowGiven fields (Stored.layout Instance) (Stored.toRow i) ↔ InstanceFields fields i := by
  constructor
  · rintro ⟨id, host, port, role, masterAddr, clusterId, -⟩
    exact ⟨(given_optional rfl).1 id, (given_required rfl).1 host, (given_required rfl).1 port,
      (given_required rfl).1 role, (given_optional rfl).1 masterAddr, (given_optional rfl).1 clusterId⟩
  · rintro ⟨id, host, port, role, masterAddr, clusterId⟩
    exact ⟨(given_optional rfl).2 id, (given_required rfl).2 host, (given_required rfl).2 port,
      (given_required rfl).2 role, (given_optional rfl).2 masterAddr, (given_optional rfl).2 clusterId, trivial⟩

private theorem rowGiven_cluster (c : Cluster) :
    RowGiven fields (Stored.layout Cluster) (Stored.toRow c) ↔ ClusterFields fields c := by
  constructor
  · rintro ⟨id, workerAddr, createdAt, -⟩
    exact ⟨(given_required rfl).1 id, (given_required rfl).1 workerAddr, (given_required rfl).1 createdAt⟩
  · rintro ⟨id, workerAddr, createdAt⟩
    exact ⟨(given_required rfl).2 id, (given_required rfl).2 workerAddr, (given_required rfl).2 createdAt, trivial⟩

end Rows

/-- Hosts, instances and clusters are read from exactly the objects whose members fit them, and nothing else
that an object has makes a difference, as long as all of its keys stand for texts. -/
theorem objects_read_by_schema :
    Schema Host HostFields ∧ Schema Instance InstanceFields ∧ Schema Cluster ClusterFields := by
  refine ⟨?host, ?inst, ?cluster⟩
  case host => exact .of_row (fun _ => rfl) fun fields => rowGiven_host
  case inst => exact .of_row (fun _ => rfl) fun fields => rowGiven_instance
  case cluster => exact .of_row (fun _ => rfl) fun fields => rowGiven_cluster

/-- The pieces of a string without escapes. -/
def unescaped (s : String) : Literal :=
  s.toList.filterMap fun c => if alone : Unescaped c then some (.plain c alone) else none

/-- Half a pair of surrogates. -/
def halfPair : Literal := [.unit ⟨⟨13, false⟩, ⟨8, false⟩, ⟨0, false⟩, ⟨0, false⟩⟩]

/-- A list with a number and with an object whose key is half a pair of surrogates. -/
def nested : Value :=
  .list [] (.more [] (.number ⟨true, 1, some ⟨5, []⟩, some ⟨false, none, ⟨9, []⟩⟩⟩) []
    (.more [] (.object [] (.more [] halfPair [] [] .null [] .none)) [] .none))

/-- A host without ids, its keys in another order and one of them escaped, with a key that is not known. -/
def foreign : ObjectText where
  lead := [.lineFeed]
  inside := []
  members :=
    .more [.space] (unescaped "ssh_port") [] [.space] (.number ⟨false, 22, none, none⟩) []
      (.more [] (unescaped "x") [] [] nested []
        (.more [.tab] (.unit ⟨⟨0, false⟩, ⟨0, false⟩, ⟨6, false⟩, ⟨9, false⟩⟩ :: unescaped "p") [.space] []
            (.string (unescaped "a")) []
          (.more [] (unescaped "ssh_user") [] [] (.string [.short .quote]) [.space] .none)))
  trail := [.carriageReturn, .lineFeed]

theorem foreign_host :
    foreign.text = "\n\x7b \"ssh_port\": 22,\"x\":[-1.5e9,\x7b\"\\ud800\":null\x7d],".toList ++
        "\t\"\\u0069p\" :\"a\",\"ssh_user\":\"\\\"\" \x7d\r\n".toList ∧
      decode (Utf8.encode foreign.text) = .ok (⟨"", "a", "\x22", 22, ""⟩ : Host) := by
  have named : foreign.fields? = some
      [("ssh_port", .number ⟨false, 22, none, none⟩), ("x", nested), ("ip", .string (unescaped "a")),
        ("ssh_user", .string [.short .quote])] := by rfl
  refine ⟨by decide, (objects_read_by_schema.1.decodes foreign _ named (by decide) _).2 ?_⟩
  constructor
  · exact .inr ⟨by simp, rfl⟩
  · exact ⟨.string (unescaped "a"), by simp, by decide⟩
  · exact ⟨.string [.short .quote], by simp, by decide⟩
  · exact ⟨.number ⟨false, 22, none, none⟩, by simp, by decide⟩
  · exact .inr ⟨by simp, rfl⟩

/-- The members of a host and nothing else. -/
def hostMembers : Members :=
  .more [] (unescaped "ip") [] [] (.string (unescaped "a")) []
    (.more [] (unescaped "ssh_user") [] [] (.string (unescaped "b")) []
      (.more [] (unescaped "ssh_port") [] [] (.number ⟨false, 1, none, none⟩) [] .none))

/-- One more key makes a host unreadable, though the key is not known and all keys are distinct: it is half a pair of
surrogates. -/
theorem half_pair_key_rejected :
    let host : ObjectText := ⟨[], [], hostMembers, []⟩
    let odd : ObjectText := ⟨[], [], .more [] halfPair [] [] (.number ⟨false, 1, none, none⟩) [] hostMembers, []⟩
    host.text = "\x7b\"ip\":\"a\",\"ssh_user\":\"b\",\"ssh_port\":1\x7d".toList ∧
      odd.text = "\x7b\"\\ud800\":1,\"ip\":\"a\",\"ssh_user\":\"b\",\"ssh_port\":1\x7d".toList ∧
      decode (Utf8.encode host.text) = .ok (⟨"", "a", "b", 1, ""⟩ : Host) ∧
      ∃ malformed, (decode (Utf8.encode odd.text) : Except Malformed Host) = .error malformed := by
  intro host odd
  refine ⟨by decide, by decide, ?_, ?_⟩
  · rw [← toOption_eq_some_iff, decode_object]
    decide
  · rw [← toOption_eq_none_iff, decode_object]
    rfl

end ClusterRegister.Record
