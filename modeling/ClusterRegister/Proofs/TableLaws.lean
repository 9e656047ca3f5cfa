import ClusterRegister.Table

/-!
# Laws of tables

What looking up a key comes to after an entry is put into a table, and where an entry with a key above
all others ends up.
-/

namespace ClusterRegister.Table

variable {κ ν : Type} [Ord κ]

theorem contains_iff {t : Table κ ν} {k : κ} : t.contains k = true ↔ ∃ v, t.get? k = some v :=
  Option.isSome_iff_exists

theorem last?_eq_none_iff {t : Table κ ν} : t.last? = none ↔ t.entries = [] :=
  List.getLast?_eq_none_iff

theorem le_last {t : Table κ ν} {last : κ × ν} (is_last : t.last? = some last) :
    ∀ e ∈ t.entries, e = last ∨ compare e.1 last.1 = .lt := by
  obtain ⟨front, split⟩ := List.getLast?_eq_some_iff.1 is_last
  intro e member
  have ascending := t.ascending
  rw [split] at member ascending
  rcases List.mem_append.1 member with before | final
  · exact .inr ((List.pairwise_append.1 ascending).2.2 e before last (by simp))
  · exact .inl (by simpa using final)

private theorem place_above {k : κ} {v : ν} {es : List (κ × ν)} (above : ∀ e ∈ es, compare k e.1 = .gt) :
    place k v es = es ++ [(k, v)] := by
  induction es with
  | nil => rfl
  | cons head rest ih =>
    obtain ⟨k', v'⟩ := head
    have first : compare k k' = .gt := above (k', v') (.head _)
    simp [place, first, ih fun e later => above e (.tail _ later)]

section Places

variable [Std.LawfulEqOrd κ]

private theorem lookup_place_self (k : κ) (v : ν) (es : List (κ × ν)) : lookup k (place k v es) = some v := by
  induction es with
  | nil => simp [place, lookup]
  | cons head rest ih =>
    obtain ⟨k', v'⟩ := head
    cases order : compare k k' with
    | lt => simp [place, order, lookup]
    | eq => simp [place, order, lookup]
    | gt => simp [place, order, lookup, ih]

private theorem lookup_place_ne {k k' : κ} (different : k' ≠ k) (v : ν) (es : List (κ × ν)) :
    lookup k' (place k v es) = lookup k' es := by
  have apart : compare k' k ≠ .eq := fun same => different (Std.LawfulEqCmp.eq_of_compare same)
  induction es with
  | nil => simp [place, lookup, apart]
  | cons head rest ih =>
    obtain ⟨k'', v''⟩ := head
    cases order : compare k k'' with
    | lt => simp [place, order, lookup, apart]
    | eq =>
      have same : k = k'' := Std.LawfulEqCmp.eq_of_compare order
      simp [place, lookup, apart, ← same]
    | gt => simp [place, order, lookup, ih]

private theorem mem_of_lookup_eq_some {es : List (κ × ν)} {k : κ} {v : ν} (found : lookup k es = some v) :
    (k, v) ∈ es := by
  induction es with
  | nil => simp [lookup] at found
  | cons head rest ih =>
    obtain ⟨k', v'⟩ := head
    by_cases order : compare k k' = .eq
    · have same : k = k' := Std.LawfulEqCmp.eq_of_compare order
      simp only [lookup, order, if_true, Option.some.injEq] at found
      subst same found
      exact .head _
    · rw [lookup, if_neg order] at found
      exact .tail _ (ih found)

end Places

section Lawful

variable [Std.TransOrd κ] [Std.LawfulEqOrd κ]

@[simp] theorem get?_insert_self (t : Table κ ν) (k : κ) (v : ν) : (t.insert k v).get? k = some v :=
  lookup_place_self k v t.entries

theorem get?_insert_ne (t : Table κ ν) {k k' : κ} (different : k' ≠ k) (v : ν) :
    (t.insert k v).get? k' = t.get? k' :=
  lookup_place_ne different v t.entries

theorem get?_insert [DecidableEq κ] (t : Table κ ν) (k k' : κ) (v : ν) :
    (t.insert k v).get? k' = if k' = k then some v else t.get? k' := by
  by_cases same : k' = k
  · subst same
    simp
  · rw [if_neg same, get?_insert_ne t same v]

private theorem lookup_eq_some_of_mem {es : List (κ × ν)}
    (ascending : es.Pairwise (fun a b => compare a.1 b.1 = .lt)) {k : κ} {v : ν} (member : (k, v) ∈ es) :
    lookup k es = some v := by
  induction es with
  | nil => simp at member
  | cons head rest ih =>
    obtain ⟨k', v'⟩ := head
    have ⟨below, tail⟩ := List.pairwise_cons.1 ascending
    rcases List.mem_cons.1 member with same | later
    · cases same
      simp [lookup]
    · have above : compare k' k = .lt := below (k, v) later
      have apart : compare k k' ≠ .eq := by
        rw [Std.OrientedCmp.gt_of_lt above]
        decide
      rw [lookup, if_neg apart]
      exact ih tail later

/-- The entries of a table are what its look-ups give. -/
theorem mem_entries_iff {t : Table κ ν} {k : κ} {v : ν} : (k, v) ∈ t.entries ↔ t.get? k = some v :=
  ⟨lookup_eq_some_of_mem t.ascending, mem_of_lookup_eq_some⟩

theorem mem_keys_iff {t : Table κ ν} {k : κ} : k ∈ t.keys ↔ t.contains k = true := by
  rw [contains_iff]
  simp only [keys, List.mem_map, Prod.exists, exists_and_right, exists_eq_right, mem_entries_iff]

omit [Std.TransOrd κ] in
private theorem entries_nodup (t : Table κ ν) : t.entries.Nodup := by
  refine t.ascending.imp fun {a b} below same => ?_
  have equal : compare a.1 b.1 = .eq := by rw [same, Std.compare_self]
  rw [equal] at below
  cases below

/-- Tables with the same look-ups are equal. -/
theorem ext_get? {t t' : Table κ ν} (same : ∀ k, t.get? k = t'.get? k) : t = t' := by
  have members (e : κ × ν) : e ∈ t.entries ↔ e ∈ t'.entries := by
    rw [mem_entries_iff, mem_entries_iff, same]
  have entries : t.entries = t'.entries := by
    refine List.Perm.eq_of_pairwise ?_ t.ascending t'.ascending ?_
    · intro a b _ _ below above
      rw [Std.OrientedCmp.gt_of_lt below] at above
      cases above
    · exact (List.perm_ext_iff_of_nodup t.entries_nodup t'.entries_nodup).2 members
  cases t
  cases t'
  cases entries
  rfl

/-- An entry whose key is above all others becomes the last one. -/
theorem entries_insert_above {t : Table κ ν} {k : κ} (above : ∀ e ∈ t.entries, compare k e.1 = .gt) (v : ν) :
    (t.insert k v).entries = t.entries ++ [(k, v)] :=
  place_above above

theorem ofList_concat (es : List (κ × ν)) (k : κ) (v : ν) : ofList (es ++ [(k, v)]) = (ofList es).insert k v := by
  rw [ofList, ofList, List.foldl_append, List.foldl_cons, List.foldl_nil]

private theorem mem_foldl_insert {es : List (κ × ν)} {t : Table κ ν} {e : κ × ν}
    (member : e ∈ (es.foldl (fun t e => t.insert e.1 e.2) t).entries) : e ∈ t.entries ∨ e ∈ es := by
  induction es generalizing t with
  | nil => exact .inl member
  | cons head rest ih =>
    rcases ih member with placed | later
    · rcases mem_place placed with same | old
      · exact .inr (same ▸ .head _)
      · exact .inl old
    · exact .inr (.tail _ later)

/-- A table of a list has no entry that is not in the list. -/
theorem mem_of_mem_ofList {es : List (κ × ν)} {e : κ × ν} (member : e ∈ (ofList es).entries) : e ∈ es := by
  rcases mem_foldl_insert member with nowhere | inside
  · cases nowhere
  · exact inside

end Lawful

end ClusterRegister.Table
