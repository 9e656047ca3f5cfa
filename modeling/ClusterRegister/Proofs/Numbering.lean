import ClusterRegister.Proofs.Confirmations
import ClusterRegister.Proofs.Readings

/-!
# Numbering

Under which number a cluster is entered, whatever the order contains: one above the greatest number that is taken,
however far apart the numbers are, and none if that is the greatest number there is. A cluster that is entered is
the last one of the listing from then on (`clusters_entered_last`).
-/

namespace ClusterRegister.Register

open ClusterRegister.Console ClusterRegister.Record ClusterRegister.Text

namespace Tables

/-- The greatest number that the order has taken. -/
structure Greatest (t : Tables) (m : UInt64) : Prop where
  taken : m ∈ t.order.keys
  most : ∀ n ∈ t.order.keys, n ≤ m

section Numbers

variable {t : Tables} {m n : UInt64}

private theorem toNat_succ (below : m < lastNumber) : (m + 1).toNat = m.toNat + 1 := by
  have small : m.toNat < lastNumber.toNat := UInt64.lt_iff_toNat_lt.1 below
  have size : lastNumber.toNat + 1 = 2 ^ 64 := rfl
  rw [UInt64.toNat_add]
  exact Nat.mod_eq_of_lt (by simp only [UInt64.toNat_one]; omega)

private theorem mem_keys_of_mem_entries {e : UInt64 × String} (member : e ∈ t.order.entries) : e.1 ∈ t.order.keys :=
  List.mem_map_of_mem member

/-- The greatest number is that of the last entry. -/
theorem Greatest.last (greatest : t.Greatest m) : ∃ id, t.order.last? = some (m, id) := by
  obtain ⟨⟨m', id⟩, member, same⟩ := List.mem_map.1 greatest.taken
  cases same
  cases final : t.order.last? with
  | none =>
    rw [Table.last?_eq_none_iff.1 final] at member
    cases member
  | some last =>
    rcases Table.le_last final _ member with same | below
    · exact ⟨id, by rw [same]⟩
    · have at_most := greatest.most last.1 (mem_keys_of_mem_entries (List.mem_of_getLast? final))
      have less := UInt64.lt_iff_toNat_lt.1 (Std.compare_eq_lt.1 below)
      exact absurd (UInt64.le_iff_toNat_le.1 at_most) (Nat.not_le_of_lt less)

private theorem nextNumber_of_empty (empty : t.order.keys = []) : t.nextNumber = some 0 := by
  have last : t.order.last? = none := Table.last?_eq_none_iff.2 (List.map_eq_nil_iff.1 empty)
  rw [nextNumber, last]

private theorem nextNumber_of_greatest (greatest : t.Greatest m) (below : m < lastNumber) :
    t.nextNumber = some (m + 1) := by
  obtain ⟨id, last⟩ := greatest.last
  have room : m.toNat + 1 < UInt64.size := by
    rw [← toNat_succ below]
    exact (m + 1).toNat_lt
  rw [nextNumber, last]
  exact if_pos room

private theorem nextNumber_of_last (greatest : t.Greatest lastNumber) : t.nextNumber = none :=
  nextNumber_eq_none_iff.2 (Table.mem_keys_iff.1 greatest.taken)

theorem Greatest.below_next (greatest : t.Greatest m) (below : m < lastNumber) : ∀ n ∈ t.order.keys, n < m + 1 := by
  intro n taken
  rw [UInt64.lt_iff_toNat_lt, toNat_succ below]
  exact Nat.lt_succ_of_le (UInt64.le_iff_toNat_le.1 (greatest.most n taken))

/-- An order is empty or has a greatest number. -/
theorem empty_or_greatest (t : Tables) : t.order.keys = [] ∨ ∃ m, t.Greatest m := by
  cases final : t.order.last? with
  | none => exact .inl (List.map_eq_nil_iff.2 (Table.last?_eq_none_iff.1 final))
  | some last =>
    refine .inr ⟨last.1, mem_keys_of_mem_entries (List.mem_of_getLast? final), ?_⟩
    intro n taken
    obtain ⟨e, member, rfl⟩ := List.mem_map.1 taken
    rcases Table.le_last final e member with rfl | below
    · exact UInt64.le_refl _
    · exact UInt64.le_of_lt (Std.compare_eq_lt.1 below)

/-- The next number is above all that are taken. -/
theorem nextNumber_above (next : t.nextNumber = some n) : ∀ k ∈ t.order.keys, k < n := by
  rcases t.empty_or_greatest with empty | ⟨m, greatest⟩
  · intro k taken
    rw [empty] at taken
    cases taken
  · by_cases below : m < lastNumber
    · rw [nextNumber_of_greatest greatest below, Option.some.injEq] at next
      exact next ▸ greatest.below_next below
    · have top : m = lastNumber := by
        rw [← UInt64.toNat_inj]
        exact Nat.le_antisymm (toNat_le_lastNumber m) (Nat.le_of_not_lt fun less => below (UInt64.lt_iff_toNat_lt.2 less))
      rw [nextNumber_of_last (top ▸ greatest)] at next
      cases next

end Numbers

section Entering

variable {t t' : Tables} {c : Cluster}

private theorem clusterEntered (fresh : c.id ∉ t.clusters.keys) {n : UInt64} (next : t.nextNumber = some n) :
    ClusterEntered c n t { t.put .clusters c.id (encode c) with order := t.order.insert n c.id } where
  new_id := get?_eq_none fresh
  new_number := nextNumber_free next
  clusters := rfl
  order := rfl
  hosts := rfl
  instances := rfl

/-- A cluster with a new id that is not blank is entered under the next number, if there is one. -/
theorem addCluster_of_fresh (named : isBlankText c.id = false) (fresh : c.id ∉ t.clusters.keys) :
    (∃ n t', t.nextNumber = some n ∧ t.addCluster c = .ok t' ∧ ClusterEntered c n t t') ∨
      (t.nextNumber = none ∧ t.addCluster c = .error .orderExhausted) := by
  have unknown : ¬ t.clusters.contains c.id = true := fun known => fresh (Table.mem_keys_iff.2 known)
  rw [addCluster, if_neg (by simp [named]), transact_enter, if_neg unknown]
  cases next : t.nextNumber with
  | none => exact .inr ⟨rfl, rfl⟩
  | some n => exact .inl ⟨n, _, rfl, rfl, clusterEntered fresh next⟩

/-- A cluster that is entered above all others, and whose id was not numbered, comes last in the listing, as it is read
back. -/
theorem listClusters_of_entered {n : UInt64} (entered : ClusterEntered c n t t') (above : ∀ k ∈ t.order.keys, k < n)
    (unnumbered : c.id ∉ t.order.values) : t'.listClusters = t.listClusters.map (· ++ [c.carried]) := by
  have after : ∀ e ∈ t.order.entries, compare n e.1 = .gt := by
    intro e member
    exact Std.compare_eq_gt.2 (above e.1 (mem_keys_of_mem_entries member))
  have values : t'.order.values = t.order.values ++ [c.id] := by
    rw [Table.values, entered.order, Table.entries_insert_above after, List.map_append]
    rfl
  have found : t'.clusters.get? c.id = some (encode c) := by
    rw [entered.clusters]
    exact Table.get?_insert_self _ _ _
  have others : ∀ id ∈ t.order.values, t'.clusters.get? id = t.clusters.get? id := by
    intro id numbered
    have different : id ≠ c.id := by
      rintro rfl
      exact unnumbered numbered
    rw [entered.clusters]
    exact Table.get?_insert_ne _ different _
  rw [listClusters, listClusters, values, readClusters_concat found (decode_cluster c), readClusters_congr others]

end Entering

end Tables

/-- On any contents, a cluster with a new id that is not blank is entered under zero if no number is taken, and
otherwise under the number after the greatest one, which is above all that are taken. If there is no number after it,
the cluster is not entered and nothing changes. A cluster that is entered, and whose id was not numbered, is listed
after those that were listed before, as it is read back from its stored bytes, and a listing that failed before fails as
it did. It is read back as it is, but for a leap second inside a minute. -/
theorem clusters_entered_last {t : Tables} {c : Cluster} (named : isBlankText c.id = false)
    (fresh : c.id ∉ t.clusters.keys) :
    (t.order.keys = [] → ∃ t', t.addCluster c = .ok t' ∧ ClusterEntered c 0 t t') ∧
      (∀ m, t.Greatest m → m < Tables.lastNumber → (m + 1).toNat = m.toNat + 1 ∧ (∀ n ∈ t.order.keys, n < m + 1) ∧
        ∃ t', t.addCluster c = .ok t' ∧ ClusterEntered c (m + 1) t t') ∧
      (t.Greatest Tables.lastNumber → t.addCluster c = .error .orderExhausted ∧
        (Addition.cluster c).call t = (.error .orderExhausted, t)) ∧
      (∀ t', t.addCluster c = .ok t' → c.id ∉ t.order.values →
        t'.listClusters = t.listClusters.map (· ++ [c.carried])) ∧
      Record.decode (Record.encode c) = .ok c.carried ∧ (c.createdAt.LeapEndsMinute → c.carried = c) := by
  have back : Record.decode (Record.encode c) = .ok c.carried ∧ (c.createdAt.LeapEndsMinute → c.carried = c) :=
    ⟨Record.decode_cluster c, Cluster.carried_of_leapEndsMinute⟩
  rcases Tables.addCluster_of_fresh named fresh with ⟨n, t', next, accepted, entered⟩ | ⟨none_left, refused⟩
  · refine ⟨?first, ?next, ?last, ?listed, back⟩
    case first =>
      intro empty
      rw [Tables.nextNumber_of_empty empty] at next
      cases next
      exact ⟨t', accepted, entered⟩
    case next =>
      intro m greatest below
      rw [Tables.nextNumber_of_greatest greatest below] at next
      cases next
      exact ⟨Tables.toNat_succ below, greatest.below_next below, t', accepted, entered⟩
    case last =>
      intro greatest
      rw [Tables.nextNumber_of_last greatest] at next
      cases next
    case listed =>
      intro t'' same unnumbered
      rw [accepted] at same
      cases same
      exact Tables.listClusters_of_entered entered (Tables.nextNumber_above next) unnumbered
  · refine ⟨?first, ?next, ?last, ?listed, back⟩
    case first =>
      intro empty
      rw [Tables.nextNumber_of_empty empty] at none_left
      cases none_left
    case next =>
      intro m greatest below
      rw [Tables.nextNumber_of_greatest greatest below] at none_left
      cases none_left
    case last =>
      intro _
      refine ⟨refused, ?_⟩
      rw [Addition.call, Tables.add, refused]
      rfl
    case listed =>
      intro t' accepted
      rw [refused] at accepted
      cases accepted

/-- Contents that number an id without a record, and one whose record does not decode under the last number but
one. -/
def crowded : Tables :=
  { Tables.empty with
    clusters := Table.empty.insert "bad" [0x5B]
    order := (Table.empty.insert 7 "gone").insert 0xFFFFFFFFFFFFFFFE "bad" }

/-- One more cluster gets the last number, and the listing fails as it did before. -/
theorem crowded_entered : ∃ t', crowded.addCluster ⟨"new", "w", .epoch⟩ = .ok t' ∧
    ClusterEntered ⟨"new", "w", .epoch⟩ Tables.lastNumber crowded t' ∧
    t'.listClusters = crowded.listClusters.map (· ++ [⟨"new", "w", .epoch⟩]) := by
  have all_below : crowded.order.keys.all (· ≤ 0xFFFFFFFFFFFFFFFE) = true := by decide
  have greatest : crowded.Greatest 0xFFFFFFFFFFFFFFFE :=
    ⟨by decide, fun n taken => of_decide_eq_true (List.all_eq_true.1 all_below n taken)⟩
  obtain ⟨_, next, _, listed, _, kept⟩ :=
    clusters_entered_last (t := crowded) (c := ⟨"new", "w", .epoch⟩) (by decide) (by decide)
  obtain ⟨_, _, t', accepted, entered⟩ := next 0xFFFFFFFFFFFFFFFE greatest (by decide)
  have listing := listed t' accepted (by decide)
  rw [kept (by decide)] at listing
  exact ⟨t', accepted, entered, listing⟩

end ClusterRegister.Register
