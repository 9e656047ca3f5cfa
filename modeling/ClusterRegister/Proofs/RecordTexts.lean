import ClusterRegister.Proofs.ReadSoundness
import ClusterRegister.Proofs.RecordSchema

/-!
# Texts of records

Which texts are read as records: objects, with their members, and lists, whose elements stand under the keys of the
columns in their order (`decode_eq_ok_iff`). No other text is.
-/

namespace ClusterRegister.Json

/-- The values of a list. -/
def Elements.values : Elements → List Value
  | .none => []
  | .more _ v _ rest => v :: rest.values

/-- The text of a list with white space around it. -/
structure ListText where
  lead : Space
  inside : Space
  elements : Elements
  trail : Space

def ListText.text (t : ListText) : List Char :=
  t.lead.text ++ (Value.list t.inside t.elements).text ++ t.trail.text

end ClusterRegister.Json

namespace ClusterRegister.Record

open ClusterRegister.Calendar ClusterRegister.Json ClusterRegister.Utf8

variable {s rest : Bytes}

/-! ### Objects -/

section Objects

variable {l : Layout} {slots filled : Slots l}

private theorem value_of_fill {name : String} (text : IsText s)
    (fills : Slots.fill l slots name s = some (.ok (filled, rest))) :
    ∃ (afterKey beforeValue : Space) (v : Json.Value),
      s = Utf8.encode afterKey.text ++ byte ':' :: (Utf8.encode beforeValue.text ++ (Utf8.encode v.text ++ rest)) := by
  induction l with
  | nil => cases fills
  | cons c cs ih =>
    obtain ⟨slot, others⟩ := slots
    simp only [Slots.fill] at fills
    split at fills
    · cases slot with
      | some x => cases fills
      | none =>
        obtain ⟨t, colon, valued⟩ := bind_eq_ok (Option.some.inj fills)
        obtain ⟨afterKey, rfl⟩ := colon_of_readColon colon
        have after_colon : IsText t := isText_tail (by decide) (isText_append afterKey.text text)
        obtain ⟨⟨x, u⟩, value, same⟩ := bind_eq_ok valued
        cases same
        obtain ⟨beforeValue, v, rfl⟩ := c.kind.value_of_read after_colon value
        exact ⟨afterKey, beforeValue, v, rfl⟩
    · obtain ⟨later, found, put⟩ := Option.map_eq_some_iff.1 fills
      obtain ⟨⟨others', t⟩, rfl, same⟩ := bind_eq_ok put
      cases same
      exact ih found

private theorem member_of_readMember (text : IsText s) (read : readMember l slots s = .ok (filled, rest)) :
    ∃ (key : Literal) (afterKey beforeValue : Space) (v : Json.Value),
      s = Utf8.encode key.body ++ (Utf8.encode afterKey.text ++
        byte ':' :: (Utf8.encode beforeValue.text ++ (Utf8.encode v.text ++ rest))) := by
  obtain ⟨⟨name, t⟩, scanned, valued⟩ := bind_eq_ok read
  obtain ⟨key, rfl, -⟩ := literal_of_scanString text scanned
  have after_key : IsText t := isText_append key.body text
  simp only at valued
  split at valued
  · next fills =>
    rw [valued] at fills
    obtain ⟨afterKey, beforeValue, v, rfl⟩ := value_of_fill after_key fills
    exact ⟨key, afterKey, beforeValue, v, rfl⟩
  · obtain ⟨u, colon, skipped⟩ := bind_eq_ok valued
    obtain ⟨afterKey, rfl⟩ := colon_of_readColon colon
    obtain ⟨w, value, same⟩ := bind_eq_ok skipped
    cases same
    obtain ⟨beforeValue, v, rfl⟩ :=
      value_of_skipValue (isText_tail (by decide) (isText_append afterKey.text after_key)) value
    exact ⟨key, afterKey, beforeValue, v, rfl⟩

/-- Members that are read are those of an object of the grammar. -/
theorem members_of_readMembers {fuel : Nat} {first : Bool} (text : IsText s)
    (read : readMembers l fuel first slots s = .ok (filled, rest)) :
    ∃ (w : Space) (ms : Members), s = Utf8.encode w.text ++ (Utf8.encode (ms.text first) ++ byte '\x7d' :: rest) := by
  induction fuel generalizing first slots s with
  | zero => cases read
  | succ fuel ih =>
    rw [readMembers] at read
    obtain ⟨w, b, r, rfl, opened⟩ := opening_of_ok read
    have later : IsText (b :: r) := isText_append w.text text
    have step {t : Bytes} (inside : IsText t)
        (went : (readMember l slots t >>= fun found => readMembers l fuel false found.1 found.2) = .ok (filled, rest)) :
        ∃ (key : Literal) (afterKey beforeValue : Space) (v : Json.Value) (after : Space) (ms : Members),
          ∀ before : Space, Utf8.encode before.text ++ byte '\x22' :: t =
            Utf8.encode ((Members.more before key afterKey beforeValue v after ms).text true) ++
              byte '\x7d' :: rest := by
      obtain ⟨⟨slots', u⟩, member, more⟩ := bind_eq_ok went
      obtain ⟨key, afterKey, beforeValue, v, rfl⟩ := member_of_readMember inside member
      have after_colon := isText_tail (by decide) (isText_append afterKey.text (isText_append key.body inside))
      have after_value : IsText u := isText_append v.text (isText_append beforeValue.text after_colon)
      obtain ⟨after, ms, rfl⟩ := ih after_value more
      exact ⟨key, afterKey, beforeValue, v, after, ms, fun before => by rw [encode_members]⟩
    split at opened
    · next closes =>
      cases opened
      exact ⟨w, .none, by rw [closes]; rfl⟩
    split at opened
    · next is_first =>
      subst is_first
      split at opened
      · next quote =>
        subst quote
        obtain ⟨key, afterKey, beforeValue, v, after, ms, split⟩ := step (isText_tail (by decide) later) opened
        exact ⟨w, _, by rw [← split []]; rfl⟩
      · cases opened
    · next not_first =>
      rw [Bool.not_eq_true] at not_first
      subst not_first
      split at opened
      · next comma =>
        subst comma
        obtain ⟨before, c, t, rfl, continued⟩ := opening_of_ok opened
        split at continued
        · next quote =>
          subst quote
          have inside := isText_tail (by decide) (isText_append before.text (isText_tail (by decide) later))
          obtain ⟨key, afterKey, beforeValue, v, after, ms, split⟩ := step inside continued
          exact ⟨w, _, by rw [encode_comma_members, ← split before]⟩
        split at continued
        · cases continued
        · cases continued
      · cases opened

end Objects

/-! ### Lists -/

/-- What the elements of a list stand for under the columns of a layout, in their order: columns beyond the elements
have the values that stand for absent ones, and elements beyond the columns stand for nothing. -/
def listRow? : (l : Layout) → List Json.Value → Option (Row l)
  | [], [] => some ()
  | [], _ :: _ => none
  | c :: cs, [] => c.absent.bind fun v => (listRow? cs []).map fun rest => (v, rest)
  | c :: cs, v :: vs => (c.kind.value? v).bind fun x => (listRow? cs vs).map fun rest => (x, rest)

section Lists

variable {l : Layout} {first : Bool}

private theorem nextElement_bracket (first : Bool) (w : Space) (rest : Bytes) :
    nextElement first (Utf8.encode w.text ++ byte ']' :: rest) = .ok (false, byte ']' :: rest) := by
  rw [nextElement, skipSpace_text]
  rfl

private theorem nextElement_element (first : Bool) (w before : Space) (v : Json.Value) (after : Space) (es : Elements)
    (rest : Bytes) :
    nextElement first (Utf8.encode w.text ++
        (Utf8.encode ((Elements.more before v after es).text first) ++ byte ']' :: rest)) =
      .ok (true, Utf8.encode v.text ++ (Utf8.encode after.text ++ (Utf8.encode (es.text false) ++ byte ']' :: rest))) := by
  obtain ⟨b, more, split, -, not_close, -⟩ :=
    v.text_cons (Utf8.encode after.text ++ (Utf8.encode (es.text false) ++ byte ']' :: rest))
  have opens := skipSpace_value before v (Utf8.encode after.text ++ (Utf8.encode (es.text false) ++ byte ']' :: rest))
  rw [split] at opens ⊢
  cases first with
  | true => simp only [nextElement, skipSpace_text, encode_elements, split, opens, not_close, if_false, if_true]
  | false =>
    have comma (s : Bytes) : skipSpace (byte ',' :: s) = byte ',' :: s := rfl
    have not_bracket : byte ',' ≠ byte ']' := by decide
    simp only [nextElement, skipSpace_text, encode_comma_elements, encode_elements, comma, split, opens, not_close,
      not_bracket, if_false, if_true, Bool.false_eq_true]

private theorem endList_bracket (w : Space) (rest : Bytes) :
    endList (Utf8.encode w.text ++ byte ']' :: rest) = .ok rest := by
  rw [endList, skipSpace_text]
  rfl

private theorem endList_element (first : Bool) (w before : Space) (v : Json.Value) (after : Space) (es : Elements)
    (rest : Bytes) :
    (endList (Utf8.encode w.text ++
      (Utf8.encode ((Elements.more before v after es).text first) ++ byte ']' :: rest))).toOption = none := by
  have other {s r : Bytes} {b : UInt8} (opens : skipSpace s = b :: r) (not_close : b ≠ byte ']') :
      (endList s).toOption = none := by
    rw [endList, opens]
    simp only [not_close, if_false]
    split
    · split <;> rfl
    · rfl
  cases first with
  | true =>
    obtain ⟨b, more, split, -, not_close, -⟩ :=
      v.text_cons (Utf8.encode after.text ++ (Utf8.encode (es.text false) ++ byte ']' :: rest))
    have opens := skipSpace_value before v (Utf8.encode after.text ++ (Utf8.encode (es.text false) ++ byte ']' :: rest))
    rw [split] at opens
    exact other (by rw [skipSpace_text, encode_elements, split, opens]) not_close
  | false =>
    have comma (s : Bytes) : skipSpace (byte ',' :: s) = byte ',' :: s := rfl
    have not_bracket : byte ',' ≠ byte ']' := by decide
    exact other (by rw [skipSpace_text, encode_comma_elements, comma]) not_bracket

private theorem readColumns_present {expected : String} {c : Column} {cs : Layout} {index : Nat} {t : Bytes}
    (next : nextElement (index == 0) s = .ok (true, t)) :
    (readColumns expected (c :: cs) index s).toOption = (c.kind.read t).toOption.bind fun found =>
      (readColumns expected cs (index + 1) found.2).toOption.map fun later => ((found.1, later.1), later.2) := by
  rw [readColumns, toOption_bind, next, toOption_ok, Option.bind_some]
  simp only [if_true, toOption_bind]
  cases (c.kind.read t).toOption with
  | none => rfl
  | some found =>
    simp only [Option.bind_some]
    cases (readColumns expected cs (index + 1) found.2).toOption <;> rfl

private theorem readColumns_absent {expected : String} {c : Column} {cs : Layout} {index : Nat} {t : Bytes}
    (next : nextElement (index == 0) s = .ok (false, t)) :
    (readColumns expected (c :: cs) index s).toOption = c.absent.bind fun v =>
      (readColumns expected cs (index + 1) t).toOption.map fun later => ((v, later.1), later.2) := by
  rw [readColumns, toOption_bind, next, toOption_ok, Option.bind_some]
  simp only [Bool.false_eq_true, if_false]
  cases c.absent with
  | none => rfl
  | some v =>
    simp only [Option.bind_some, toOption_bind]
    cases (readColumns expected cs (index + 1) t).toOption <;> rfl

/-- A row that is read to the end of its list. -/
def endRow (found : Option (Row l × Bytes)) : Option (Row l × Bytes) :=
  found.bind fun found => (endList found.2).toOption.map fun s => (found.1, s)

private theorem endRow_cons {c : Column} {cs : Layout} (x : c.kind.Value) {found : Option (Row cs × Bytes)}
    {row : Option (Row cs)} (ended : endRow found = row.map fun row => (row, rest)) :
    @endRow (c :: cs) (found.map fun later => ((x, later.1), later.2)) =
      (row.map fun row => (x, row)).map fun row => (row, rest) := by
  have carried : @endRow (c :: cs) (found.map fun later => ((x, later.1), later.2)) =
      (endRow found).map fun later => ((x, later.1), later.2) := by
    cases found with
    | none => rfl
    | some found =>
      simp only [endRow, Option.map_some, Option.bind_some, Option.map_map]
      rfl
  rw [carried, ended, Option.map_map, Option.map_map]
  rfl

/-- The elements of a list are read column by column. -/
theorem readColumns_text (expected : String) (index : Nat) (w : Space) (es : Elements) (rest : Bytes) :
    endRow (readColumns expected l index
        (Utf8.encode w.text ++ (Utf8.encode (es.text (index == 0)) ++ byte ']' :: rest))).toOption =
      (listRow? l es.values).map fun row => (row, rest) := by
  induction l generalizing index w es with
  | nil =>
    rw [readColumns, toOption_ok, endRow, Option.bind_some]
    cases es with
    | none =>
      have ended := endList_bracket w rest
      simp only [Elements.text, Utf8.encode_nil, List.nil_append, ended]
      rfl
    | more before v after es =>
      rw [endList_element]
      rfl
  | cons c cs ih =>
    cases es with
    | none =>
      have later := ih (index + 1) [] .none
      have nothing : Utf8.encode (Elements.none.text (index == 0)) ++ byte ']' :: rest = byte ']' :: rest := rfl
      rw [nothing, readColumns_absent (nextElement_bracket (index == 0) w rest), Elements.values, listRow?]
      cases c.absent with
      | none => rfl
      | some x => exact endRow_cons x later
    | more before v after es =>
      have later := ih (index + 1) after es
      have value : (c.kind.read (Utf8.encode v.text ++ (Utf8.encode after.text ++
            (Utf8.encode (es.text false) ++ byte ']' :: rest)))).toOption = _ :=
        c.kind.read_value [] v (endsNumber_elements after es rest)
      rw [readColumns_present (nextElement_element (index == 0) w before v after es rest), Elements.values, listRow?,
        value]
      cases c.kind.value? v with
      | none => rfl
      | some x => exact endRow_cons x later

private theorem readList_eq_endRow (expected : String) (l : Layout) (s : Bytes) :
    (readList expected l s).toOption = endRow (readColumns expected l 0 s).toOption := by
  rw [readList, toOption_bind, endRow]
  cases (readColumns expected l 0 s).toOption with
  | none => rfl
  | some found =>
    simp only [Option.bind_some, toOption_bind]
    cases (endList found.2).toOption <;> rfl

private theorem bracket_of_endList (ended : endList s = .ok rest) :
    ∃ w : Space, s = Utf8.encode w.text ++ byte ']' :: rest := by
  rw [endList] at ended
  obtain ⟨w, b, r, rfl, opened⟩ := opening_of_ok ended
  split at opened
  · next closes =>
    cases opened
    exact ⟨w, by rw [closes]⟩
  split at opened
  · split at opened <;> cases opened
  · cases opened

/-- The next element of a list begins after a comma, if it is not the first, or the list is at its end. -/
theorem next_of_nextElement {present : Bool} {t : Bytes} (next : nextElement first s = .ok (present, t)) :
    present = false ∧ (∃ (w : Space) (r : Bytes), s = Utf8.encode w.text ++ t ∧ t = byte ']' :: r) ∨
      present = true ∧ ∃ w before : Space,
        s = Utf8.encode w.text ++ (Utf8.encode (if first then [] else [',']) ++ (Utf8.encode before.text ++ t)) := by
  rw [nextElement] at next
  obtain ⟨w, b, r, rfl, opened⟩ := opening_of_ok next
  split at opened
  · next closes =>
    cases opened
    exact .inl ⟨rfl, w, r, rfl, by rw [closes]⟩
  split at opened
  · next is_first =>
    cases opened
    exact .inr ⟨rfl, w, [], by rw [if_pos is_first]; rfl⟩
  · next not_first =>
    split at opened
    · next comma =>
      obtain ⟨before, c, after, rfl, continued⟩ := opening_of_ok opened
      split at continued
      · cases continued
      · cases continued
        exact .inr ⟨rfl, w, before, by rw [if_neg not_first, comma]; rfl⟩
    · cases opened

/-- At the end of a list, the columns that are left are read where it ends. -/
theorem later_of_absent {expected : String} {c : Column} {cs : Layout} {index : Nat} {row : Row (c :: cs)} {t u : Bytes}
    (next : nextElement (index == 0) s = .ok (false, t))
    (read : readColumns expected (c :: cs) index s = .ok (row, u)) :
    ∃ row' : Row cs, readColumns expected cs (index + 1) t = .ok (row', u) := by
  rw [← toOption_eq_some_iff, readColumns_absent next] at read
  obtain ⟨v, -, columns⟩ := Option.bind_eq_some_iff.1 read
  obtain ⟨⟨row', t'⟩, later, same⟩ := Option.map_eq_some_iff.1 columns
  obtain rfl : t' = u := (Prod.mk.inj same).2
  exact ⟨row', toOption_eq_some_iff.1 later⟩

private theorem rest_of_readColumns {expected : String} {index : Nat} {row : Row l} {r t : Bytes}
    (read : readColumns expected l index (byte ']' :: r) = .ok (row, t)) : t = byte ']' :: r := by
  induction l generalizing index with
  | nil =>
    cases read
    rfl
  | cons c cs ih =>
    obtain ⟨row', later⟩ := later_of_absent (nextElement_bracket (index == 0) [] r) read
    exact ih later

private theorem elements_of_readColumns {expected : String} {index : Nat} {row : Row l} {t : Bytes} (text : IsText s)
    (read : readColumns expected l index s = .ok (row, t)) (ended : endList t = .ok rest) :
    ∃ (w : Space) (es : Elements),
      s = Utf8.encode w.text ++ (Utf8.encode (es.text (index == 0)) ++ byte ']' :: rest) := by
  induction l generalizing index s with
  | nil =>
    cases read
    obtain ⟨w, split⟩ := bracket_of_endList ended
    exact ⟨w, .none, split⟩
  | cons c cs ih =>
    obtain ⟨⟨present, u⟩, next, columns⟩ := bind_eq_ok read
    rcases next_of_nextElement next with ⟨rfl, w, r, rfl, rfl⟩ | ⟨rfl, w, before, rfl⟩
    · obtain ⟨row', later⟩ := later_of_absent next read
      rw [rest_of_readColumns later, show endList (byte ']' :: r) = _ from endList_bracket [] r] at ended
      cases ended
      exact ⟨w, .none, rfl⟩
    · simp only [if_true] at columns
      obtain ⟨⟨x, u'⟩, value, later⟩ := bind_eq_ok columns
      obtain ⟨⟨row', t'⟩, more, same⟩ := bind_eq_ok later
      obtain rfl : t' = t := (Prod.mk.inj (Except.ok.inj same)).2
      have element : IsText u := isText_append before.text (isText_append _ (isText_append w.text text))
      obtain ⟨beforeValue, v, rfl⟩ := c.kind.value_of_read element value
      have after_value : IsText u' := isText_append v.text (isText_append beforeValue.text element)
      obtain ⟨after, es, rfl⟩ := ih after_value more
      refine ⟨w, .more (before ++ beforeValue) v after es, ?_⟩
      have not_first : (index + 1 == 0) = false := rfl
      simp only [Elements.text, Space.text, List.map_append, Utf8.encode_append, List.append_assoc, not_first]

end Lists

/-- Elements for at most the columns of a layout stand for the same as the members of an object under their keys. -/
theorem listRow?_eq {l : Layout} (distinct : (l.map (·.key)).Nodup) (vs : List Json.Value) :
    listRow? l vs = if vs.length ≤ l.length then row? l ((l.map (·.key)).zip vs) else none := by
  induction l generalizing vs with
  | nil => cases vs <;> rfl
  | cons c cs ih =>
    rw [List.map_cons, List.nodup_cons] at distinct
    cases vs with
    | nil =>
      have later := ih distinct.2 []
      simp only [List.length_nil, Nat.zero_le, if_true, List.zip_nil_right] at later ⊢
      rw [listRow?, later]
      rfl
    | cons v vs =>
      have later := ih distinct.2 vs
      have others : ∀ field ∈ (cs.map (·.key)).zip vs, field.1 ≠ c.key := by
        intro field member same
        exact distinct.1 (same ▸ (List.of_mem_zip member).1)
      have own : c.value? ((c.key, v) :: (cs.map (·.key)).zip vs) = c.kind.value? v := by
        have nothing : ((cs.map (·.key)).zip vs).filter (·.1 = c.key) = [] :=
          List.filter_eq_nil_iff.2 fun field member => by simp [others field member]
        rw [Column.value?, List.filter_cons_of_pos (by simp), nothing]
      have rest : row? cs ((c.key, v) :: (cs.map (·.key)).zip vs) = row? cs ((cs.map (·.key)).zip vs) := by
        refine row?_congr fun d member => ?_
        have other : ¬ c.key = d.key := fun same => distinct.1 (List.mem_map.2 ⟨d, member, same.symm⟩)
        rw [Column.value?, Column.value?, List.filter_cons_of_neg (by simp [other])]
      rw [listRow?, later, List.map_cons, List.zip_cons_cons, row?, own, rest]
      simp only [List.length_cons, Nat.add_le_add_iff_right]
      split
      · rfl
      · cases c.kind.value? v <;> rfl

section Repeated

variable {l : Layout} {fields fields' : List (String × Json.Value)}

/-- No column has its key twice among the members. -/
def Unrepeated (l : Layout) (fields : List (String × Json.Value)) : Prop := ((known l fields).map (·.1)).Nodup

instance : Decidable (Unrepeated l fields) := inferInstanceAs (Decidable (List.Nodup _))

theorem unrepeated_iff : Unrepeated l fields ↔ ∀ c ∈ l, (fields.map (·.1)).count c.key ≤ 1 := by
  have counts {c : Column} (member : c ∈ l) :
      ((known l fields).map (·.1)).count c.key = (fields.map (·.1)).count c.key := by
    rw [← length_filter_key, ← length_filter_key, filter_known (List.mem_map.2 ⟨c, member, rfl⟩)]
  rw [Unrepeated, List.nodup_iff_count]
  constructor
  · intro once c member
    rw [← counts member]
    exact once c.key
  · intro once key
    by_cases has : key ∈ (known l fields).map (·.1)
    · obtain ⟨field, known, rfl⟩ := List.mem_map.1 has
      obtain ⟨c, member, same⟩ := List.mem_map.1 (of_decide_eq_true (List.mem_filter.1 known).2)
      rw [← same, counts member]
      exact once c member
    · rw [List.count_eq_zero_of_not_mem has]
      exact Nat.zero_le 1

private theorem rowGiven_congr {row : Row l}
    (same : ∀ c ∈ l, ∀ x : c.kind.Value, c.Given fields x ↔ c.Given fields' x) :
    RowGiven fields l row ↔ RowGiven fields' l row := by
  induction l with
  | nil => exact Iff.rfl
  | cons c cs ih =>
    obtain ⟨x, rest⟩ := row
    rw [RowGiven, RowGiven, same c (.head _), ih fun d later => same d (.tail _ later)]

private theorem given_known {c : Column} (member : c ∈ l) {x : c.kind.Value} :
    c.Given (known l fields) x ↔ c.Given fields x := by
  have has : c.key ∈ l.map (·.key) := List.mem_map.2 ⟨c, member, rfl⟩
  have same (v : Json.Value) : (c.key, v) ∈ known l fields ↔ (c.key, v) ∈ fields := by
    rw [known, List.mem_filter, decide_eq_true_eq]
    exact and_iff_left has
  simp only [Column.Given, Gives, same]

/-- The columns have the values that members give them, if no key of theirs is repeated. -/
theorem row?_eq_some_iff_given {row : Row l} :
    row? l fields = some row ↔ Unrepeated l fields ∧ RowGiven fields l row := by
  have alike : row? l fields = row? l (known l fields) :=
    row?_congr fun c member => value?_perm (by rw [filter_known (List.mem_map.2 ⟨c, member, rfl⟩)])
  have given : RowGiven (known l fields) l row ↔ RowGiven fields l row :=
    rowGiven_congr fun c member x => given_known member
  by_cases once : Unrepeated l fields
  · rw [alike, row?_eq_some_iff once, given]
    exact (and_iff_right once).symm
  · have repeated : ∃ c ∈ l, 1 < (fields.map (·.1)).count c.key := by
      simpa [unrepeated_iff] using once
    obtain ⟨c, member, again⟩ := repeated
    rw [row?_none member (value?_repeated again)]
    constructor
    · intro found
      cases found
    · exact fun found => absurd found.1 once

end Repeated

/-! ### Texts -/

/-- A text from which columns can have values: an object all of whose keys stand for texts, with its members, or a list,
whose elements stand under the keys of the columns in their order. -/
inductive Presents (l : Layout) : List Char → List (String × Json.Value) → Prop
  | object (o : ObjectText) {fields : List (String × Json.Value)} : o.fields? = some fields → Presents l o.text fields
  | list (t : ListText) : t.elements.values.length ≤ l.length →
    Presents l t.text ((l.map (·.key)).zip t.elements.values)

section Stored

variable {α : Type} [Stored α]

private theorem decode_list (t : ListText) :
    (decode (Utf8.encode t.text) : Except Malformed α).toOption =
      (listRow? (Stored.layout α) t.elements.values).map Stored.ofRow := by
  have text : Utf8.encode t.text =
      Utf8.encode t.lead.text ++ (Utf8.encode (Value.list t.inside t.elements).text ++ Utf8.encode t.trail.text) := by
    simp only [ListText.text, Utf8.encode_append, List.append_assoc]
  refine decode_of_readRow t.trail ?_
  rw [readRow, text, skipSpace_value, encode_list]
  simp only [if_true]
  rw [readList_eq_endRow]
  exact readColumns_text _ 0 t.inside t.elements (Utf8.encode t.trail.text)

/-- No texts but objects and lists are read as records. -/
theorem object_or_list_of_decode {cs : List Char} {a : α} (decoded : decode (Utf8.encode cs) = .ok a) :
    (∃ o : ObjectText, cs = o.text) ∨ ∃ t : ListText, cs = t.text := by
  have same_text {ds : List Char} (same : Utf8.encode cs = Utf8.encode ds) : cs = ds := by
    have decoded := congrArg decode? same
    rwa [decode?_encode, decode?_encode, Option.some_inj] at decoded
  rw [decode, readWhole] at decoded
  split at decoded
  · cases decoded
  · next b rest found =>
    split at decoded
    · next ended =>
      obtain ⟨⟨row, t⟩, rows, same⟩ := bind_eq_ok found
      obtain rfl : t = rest := (Prod.mk.inj (Except.ok.inj same)).2
      obtain ⟨trail, blank⟩ := space_of_skipSpace t
      rw [ended, List.append_nil] at blank
      rw [readRow] at rows
      obtain ⟨lead, b, r, split, opened⟩ := opening_of_ok rows
      have inside : IsText (b :: r) := isText_append lead.text ⟨cs, split.symm⟩
      split at opened
      · next bracket =>
        subst bracket
        obtain ⟨⟨row', u⟩, columns, closed⟩ := bind_eq_ok opened
        obtain ⟨v, ended, same⟩ := bind_eq_ok closed
        cases same
        obtain ⟨w, es, elements⟩ := elements_of_readColumns (isText_tail (by decide) inside) columns ended
        refine .inr ⟨⟨lead, w, es, trail⟩, same_text ?_⟩
        rw [split, elements, blank, ListText.text, Utf8.encode_append, Utf8.encode_append, List.append_assoc, encode_list]
        rfl
      split at opened
      · next brace =>
        subst brace
        obtain ⟨⟨slots, u⟩, members, finished⟩ := bind_eq_ok opened
        simp only at finished
        split at finished
        · cases finished
          obtain ⟨w, ms, text⟩ := members_of_readMembers (isText_tail (by decide) inside) members
          refine .inl ⟨⟨lead, w, ms, trail⟩, same_text ?_⟩
          rw [split, text, blank, ObjectText.text, Utf8.encode_append, Utf8.encode_append, List.append_assoc,
            encode_object]
        · cases finished
      · cases opened
    · cases decoded

/-- A text is read as a record if and only if its members or elements stand for the row of the record. -/
theorem decode_eq_ok_iff {cs : List Char} {a : α} :
    decode (Utf8.encode cs) = .ok a ↔ ∃ fields, Presents (Stored.layout α) cs fields ∧
      (row? (Stored.layout α) fields).map Stored.ofRow = some a := by
  constructor
  · intro decoded
    rcases object_or_list_of_decode decoded with ⟨o, rfl⟩ | ⟨t, rfl⟩
    · rw [← toOption_eq_some_iff, decode_object, Option.map_eq_some_iff] at decoded
      obtain ⟨row, found, record⟩ := decoded
      obtain ⟨fields, named, found⟩ := Option.bind_eq_some_iff.1 found
      exact ⟨fields, .object o named, by rw [found, Option.map_some, record]⟩
    · rw [← toOption_eq_some_iff, decode_list, listRow?_eq Stored.distinct] at decoded
      split at decoded
      · next short => exact ⟨_, .list t short, decoded⟩
      · cases decoded
  · rintro ⟨fields, presents, row⟩
    cases presents with
    | object o named => rw [← toOption_eq_some_iff, decode_object, named, Option.bind_some, row]
    | list t short => rw [← toOption_eq_some_iff, decode_list, listRow?_eq Stored.distinct, if_pos short, row]

/-- Where rows and records are the same, a text is read as a record if and only if it gives all columns the values of
the record, and none twice. -/
theorem decode_eq_ok_iff_given (full : ∀ row, Stored.toRow (Stored.ofRow row : α) = row) {cs : List Char} {a : α} :
    decode (Utf8.encode cs) = .ok a ↔ ∃ fields, Presents (Stored.layout α) cs fields ∧
      Unrepeated (Stored.layout α) fields ∧ RowGiven fields (Stored.layout α) (Stored.toRow a) := by
  have record (row : Option (Row (Stored.layout α))) :
      row.map Stored.ofRow = some a ↔ row = some (Stored.toRow a) := by
    rw [Option.map_eq_some_iff]
    constructor
    · rintro ⟨found, rfl, rfl⟩
      rw [full]
    · rintro rfl
      exact ⟨_, rfl, Stored.ofRow_toRow a⟩
  simp only [decode_eq_ok_iff, record, row?_eq_some_iff_given]

end Stored

end ClusterRegister.Record
