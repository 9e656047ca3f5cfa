import ClusterRegister.Proofs.Roster
import ClusterRegister.Proofs.StoredForms

/-!
# Representation

How tables represent a roster: the records and the lists that are not empty stand as bytes under the ids
of their clusters, and the order numbers these ids from zero on. Reading the tables gives what the roster
has, with times as they are read back, and adding to them follows the roster until the numbers of the order are
used up.
-/

namespace ClusterRegister.Register

open ClusterRegister.Record ClusterRegister.Text

/-- Ids under their numbers, from zero on. -/
def numbered (ids : List String) : List (UInt64 × String) := ids.mapIdx fun n id => (UInt64.ofNat n, id)

private theorem numbered_concat (ids : List String) (id : String) :
    numbered (ids ++ [id]) = numbered ids ++ [(UInt64.ofNat ids.length, id)] := List.mapIdx_concat

theorem values_numbered (ids : List String) : (numbered ids).map (·.2) = ids := by
  rw [numbered, List.mapIdx_eq_zipIdx_map, List.map_map]
  exact List.zipIdx_map_fst 0 ids

theorem toNat_ofNat_of_lt_size {n : Nat} (small : n < UInt64.size) : (UInt64.ofNat n).toNat = n :=
  UInt64.toNat_ofNat_of_lt' small

/-- The next number counts the ids, as long as it fits. -/
theorem nextNumber_of_numbered {t : Tables} {ids : List String} (order : t.order.entries = numbered ids)
    (fits : ids.length ≤ UInt64.size) :
    t.nextNumber = if ids.length < UInt64.size then some (UInt64.ofNat ids.length) else none := by
  rcases List.eq_nil_or_concat ids with rfl | ⟨front, id, rfl⟩
  · have last : t.order.last? = none := Table.last?_eq_none_iff.2 order
    rw [Tables.nextNumber, last]
    rfl
  · rw [List.concat_eq_append] at order fits ⊢
    rw [List.length_append, List.length_singleton] at fits ⊢
    have last : t.order.last? = some (UInt64.ofNat front.length, id) := by
      rw [Table.last?, order, numbered_concat, List.getLast?_append, List.getLast?_singleton]
      rfl
    have number := toNat_ofNat_of_lt_size (n := front.length) (by omega)
    rw [Tables.nextNumber, last]
    simp only [number, UInt64.ofNat_add]
    rfl

private theorem number_above (ids : List String) (small : ids.length < UInt64.size) :
    ∀ e ∈ numbered ids, compare (UInt64.ofNat ids.length) e.1 = .gt := by
  intro e member
  obtain ⟨n, below, rfl⟩ := List.mem_mapIdx.1 member
  rw [Std.compare_eq_gt, UInt64.lt_iff_toNat_lt, toNat_ofNat_of_lt_size small,
    toNat_ofNat_of_lt_size (by omega)]
  exact below

/-- The bytes of a list in a table: an empty list has none. -/
def listed {α : Type} [Stored α] : List α → Option Bytes
  | [] => none
  | a :: as => some (encodeList (a :: as))

private theorem listed_append {α : Type} [Stored α] (as : List α) (a : α) :
    listed (as ++ [a]) = some (encodeList (as ++ [a])) := by
  cases as <;> rfl

section Lists

variable {α : Type} [Stored α] {lists : RosterEntry → List α} {r : Roster}

private theorem listed_push {c : Cluster} (fresh : r.under? c.id = none) (nothing : lists ⟨c, [], []⟩ = [])
    (id : String) :
    (Roster.under? (r ++ [⟨c, [], []⟩]) id).bind (fun e => listed (lists e)) =
      (r.under? id).bind fun e => listed (lists e) := by
  rw [Roster.under?_append]
  by_cases here : c.id = id
  · subst here
    simp [fresh, nothing, listed]
  · simp [here]

section Change

variable {f : RosterEntry → RosterEntry} (keeps : ∀ e, (f e).cluster = e.cluster)

include keeps

private theorem listed_change_same (same : ∀ e, lists (f e) = lists e) (id other : String) :
    ((r.change id f).under? other).bind (fun e => listed (lists e)) =
      (r.under? other).bind fun e => listed (lists e) := by
  rw [Roster.under?_change keeps]
  by_cases here : other = id
  · rw [if_pos here]
    simp only [Option.bind_map, Function.comp_def, same]
  · rw [if_neg here]

private theorem listed_change_longer {a : α} (longer : ∀ e, lists (f e) = lists e ++ [a]) {id : String}
    {e : RosterEntry} (found : r.under? id = some e) (other : String) :
    ((r.change id f).under? other).bind (fun e => listed (lists e)) =
      if other = id then some (encodeList (lists e ++ [a])) else (r.under? other).bind fun e => listed (lists e) := by
  rw [Roster.under?_change keeps]
  by_cases here : other = id
  · subst here
    rw [if_pos rfl, if_pos rfl, found, Option.map_some, Option.bind_some, longer, listed_append]
  · rw [if_neg here, if_neg here]

end Change

private theorem readList_of_listed [Exact α] {t : Tables} {name : TableName}
    (under : ∀ id, (t.records name).get? id = (r.under? id).bind fun e => listed (lists e)) (id : String) :
    t.readList name id = .ok (((r.under? id).map lists).getD []) := by
  have found := under id
  cases entry : r.under? id with
  | none =>
    rw [entry] at found
    exact Tables.readList_of_missing found
  | some e =>
    rw [entry, Option.bind_some] at found
    rw [Option.map_some, Option.getD_some]
    cases list : lists e with
    | nil =>
      rw [list] at found
      exact Tables.readList_of_missing found
    | cons a as =>
      rw [list] at found
      rw [Tables.readList_of_found found, decodeList_exact]
      rfl

end Lists

/-- Tables whose contents are those of a roster. -/
structure Represents (r : Roster) (t : Tables) : Prop where
  clusters : ∀ id, t.clusters.get? id = (r.under? id).map fun e => encode e.cluster
  hosts : ∀ id, t.hosts.get? id = (r.under? id).bind fun e => listed e.hosts
  instances : ∀ id, t.instances.get? id = (r.under? id).bind fun e => listed e.instances
  order : t.order.entries = numbered r.ids
  distinct : r.ids.Nodup
  fits : r.length ≤ UInt64.size

namespace Represents

theorem empty : Represents [] .empty where
  clusters _ := rfl
  hosts _ := rfl
  instances _ := rfl
  order := rfl
  distinct := .nil
  fits := Nat.zero_le _

variable {r : Roster} {t : Tables} (rep : Represents r t)

include rep

theorem contains_cluster (id : String) : t.clusters.contains id = (r.under? id).isSome := by
  rw [Table.contains, rep.clusters id, Option.isSome_map]

theorem getCluster (id : String) : t.getCluster id = (r.getCluster id).map Cluster.carried := by
  rw [Tables.getCluster, Roster.getCluster, rep.clusters id]
  cases r.under? id with
  | none => rfl
  | some e =>
    rw [Option.map_some]
    simp only [decode_cluster]
    rfl

theorem clusterExists (id : String) : t.clusterExists id = .ok (r.clusterExists id) := by
  rw [Tables.clusterExists, rep.getCluster id, Roster.getCluster, Roster.clusterExists]
  cases r.under? id <;> rfl

private theorem hosts_under (id : String) :
    (t.records .hosts).get? id = (r.under? id).bind fun e => listed e.hosts := rep.hosts id

private theorem instances_under (id : String) :
    (t.records .instances).get? id = (r.under? id).bind fun e => listed e.instances := rep.instances id

theorem listHosts (id : String) : t.listHosts id = .ok (r.listHosts id) :=
  readList_of_listed rep.hosts_under id

theorem listInstances (id : String) : t.listInstances id = .ok (r.listInstances id) :=
  readList_of_listed rep.instances_under id

theorem topology (id : String) : t.topology id = (r.topology id).map Topology.carried := by
  rw [Tables.topology, rep.getCluster id, rep.listHosts id, rep.listInstances id, Roster.getCluster,
    Roster.listHosts, Roster.listInstances, Roster.topology]
  cases r.under? id <;> rfl

theorem readClusters (es : List RosterEntry) (inside : ∀ e ∈ es, r.under? e.cluster.id = some e) :
    t.readClusters (es.map (·.cluster.id)) = .ok (es.map (·.cluster.carried)) := by
  induction es with
  | nil => rfl
  | cons e rest ih =>
    have found := rep.clusters e.cluster.id
    rw [inside e (.head _), Option.map_some] at found
    rw [List.map_cons, Tables.readClusters, found]
    simp only [decode_cluster, Tables.interpret, ih fun d later => inside d (.tail _ later)]
    rfl

theorem listClusters : t.listClusters = .ok (r.listClusters.map Cluster.carried) := by
  rw [Tables.listClusters, Table.values, rep.order, values_numbered, Roster.listClusters, List.map_map]
  exact rep.readClusters r fun e member => Roster.under?_of_mem rep.distinct member

theorem push (c : Cluster) (fresh : r.under? c.id = none) (room : r.length < UInt64.size) :
    Represents (r ++ [⟨c, [], []⟩])
      { t.put .clusters c.id (encode c) with order := t.order.insert (UInt64.ofNat r.length) c.id } where
  clusters id := by
    have before := rep.clusters id
    simp only [Tables.put, Tables.withRecords, Tables.records, Table.get?_insert, Roster.under?_append]
    by_cases here : id = c.id
    · subst here
      simp [fresh]
    · have apart : ¬ c.id = id := fun same => here same.symm
      simp [here, apart, before]
  hosts id := by
    rw [listed_push fresh rfl]
    exact rep.hosts id
  instances id := by
    rw [listed_push fresh rfl]
    exact rep.instances id
  order := by
    have length : r.ids.length = r.length := List.length_map _
    have above := number_above r.ids (by omega)
    rw [length, ← rep.order] at above
    rw [Table.entries_insert_above above, rep.order, Roster.ids_append, numbered_concat, length]
  distinct := by
    rw [Roster.ids_append]
    refine List.nodup_append.2 ⟨rep.distinct, by simp, ?_⟩
    intro id old new is_new same
    rw [List.mem_singleton] at is_new
    subst is_new same
    exact Roster.under?_eq_none_iff.1 fresh old
  fits := by
    rw [List.length_append, List.length_singleton]
    omega

theorem addCluster (c : Cluster) :
    (∃ e, r.addCluster c = .error e ∧ t.addCluster c = .error (.refused e)) ∨
      (∃ r', r.addCluster c = .ok r' ∧
        ((r.length = UInt64.size ∧ t.addCluster c = .error .orderExhausted) ∨
          ∃ t', t.addCluster c = .ok t' ∧ Represents r' t')) := by
  rw [Roster.addCluster, Tables.addCluster, Tables.transact_enter, rep.contains_cluster]
  by_cases blank : isBlankText c.id = true
  · exact .inl ⟨_, if_pos blank, if_pos blank⟩
  rw [if_neg blank, if_neg blank]
  by_cases known : (r.under? c.id).isSome = true
  · refine .inl ⟨_, if_pos known, ?_⟩
    rw [if_pos known]
    rfl
  · rw [if_neg known, if_neg known]
    have fresh : r.under? c.id = none := by simpa using known
    have length : r.ids.length = r.length := List.length_map _
    have number := nextNumber_of_numbered rep.order (by rw [length]; exact rep.fits)
    rw [length] at number
    refine .inr ⟨_, rfl, ?_⟩
    by_cases room : r.length < UInt64.size
    · rw [if_pos room] at number
      rw [number]
      exact .inr ⟨_, rfl, rep.push c fresh room⟩
    · rw [if_neg room] at number
      rw [number]
      exact .inl ⟨Nat.le_antisymm rep.fits (Nat.le_of_not_lt room), rfl⟩

/-- The tables with a changed entry: its bytes in the tables of lists are the new ones. -/
theorem change {id : String} {f : RosterEntry → RosterEntry} (keeps : ∀ e, (f e).cluster = e.cluster) {t' : Tables}
    (clusters : t'.clusters = t.clusters) (order : t'.order = t.order)
    (hosts : ∀ other, t'.hosts.get? other = ((r.change id f).under? other).bind fun e => listed e.hosts)
    (instances : ∀ other,
      t'.instances.get? other = ((r.change id f).under? other).bind fun e => listed e.instances) :
    Represents (r.change id f) t' where
  clusters other := by
    rw [clusters, rep.clusters other, Roster.under?_change keeps]
    by_cases here : other = id
    · rw [if_pos here, Option.map_map]
      simp only [Function.comp_def, keeps]
    · rw [if_neg here]
  hosts := hosts
  instances := instances
  order := by rw [order, rep.order, Roster.ids_change keeps]
  distinct := by
    rw [Roster.ids_change keeps]
    exact rep.distinct
  fits := by
    have length : (r.change id f).length = r.length := List.length_map _
    rw [length]
    exact rep.fits

private theorem putHost (cluster : String) (h : Host) {e : RosterEntry} (found : r.under? cluster = some e) :
    Represents (r.change cluster (·.addHost h)) (t.put .hosts cluster (encodeList (e.hosts ++ [h]))) := by
  have keeps (e : RosterEntry) : (e.addHost h).cluster = e.cluster := rfl
  refine rep.change keeps rfl rfl ?_ ?_
  · intro other
    rw [listed_change_longer keeps (fun _ => rfl) found, ← rep.hosts other]
    exact Table.get?_insert t.hosts cluster other _
  · intro other
    rw [listed_change_same keeps fun _ => rfl]
    exact rep.instances other

private theorem putInstance (cluster : String) (i : Instance) {e : RosterEntry} (found : r.under? cluster = some e) :
    Represents (r.change cluster (·.addInstance i))
      (t.put .instances cluster (encodeList (e.instances ++ [i]))) := by
  have keeps (e : RosterEntry) : (e.addInstance i).cluster = e.cluster := rfl
  refine rep.change keeps rfl rfl ?_ ?_
  · intro other
    rw [listed_change_same keeps fun _ => rfl]
    exact rep.hosts other
  · intro other
    rw [listed_change_longer keeps (fun _ => rfl) found, ← rep.instances other]
    exact Table.get?_insert t.instances cluster other _

/-- A record is put at the end of the list that the entry of its cluster has. -/
theorem transact_append {α : Type} [Stored α] [Exact α] {name : TableName} {lists : RosterEntry → List α}
    (under : ∀ id, (t.records name).get? id = (r.under? id).bind fun e => listed (lists e))
    (cluster : String) (a : α) :
    t.transact (Tables.append name cluster a) =
      match r.under? cluster with
      | some e => .ok ((), t.put name cluster (encodeList (lists e ++ [a])))
      | none => .error (.clusterNotFound cluster) := by
  rw [Tables.transact_append, rep.contains_cluster, readList_of_listed under]
  cases r.under? cluster <;> rfl

theorem addHost (cluster : String) (h : Host) :
    (∃ e, r.addHost cluster h = .error e ∧ t.addHost cluster h = .error e) ∨
      (∃ added r' t', r.addHost cluster h = .ok (added, r') ∧ t.addHost cluster h = .ok (added, t') ∧
        Represents r' t') := by
  rw [Roster.addHost, Tables.addHost]
  by_cases blank : isBlankText h.ip = true
  · exact .inl ⟨_, if_pos blank, if_pos blank⟩
  rw [if_neg blank, if_neg blank]
  simp only [rep.transact_append rep.hosts_under]
  cases found : r.under? cluster with
  | none => exact .inl ⟨.clusterNotFound cluster, rfl, rfl⟩
  | some e => exact .inr ⟨_, _, _, rfl, rfl, rep.putHost cluster _ found⟩

theorem addInstance (cluster : String) (i : Instance) :
    (∃ e, r.addInstance cluster i = .error e ∧ t.addInstance cluster i = .error e) ∨
      (∃ added r' t', r.addInstance cluster i = .ok (added, r') ∧
        t.addInstance cluster i = .ok (added, t') ∧ Represents r' t') := by
  rw [Roster.addInstance, Tables.addInstance]
  by_cases blank : isBlankText i.host = true
  · exact .inl ⟨_, if_pos blank, if_pos blank⟩
  rw [if_neg blank, if_neg blank]
  by_cases zero : i.port = 0
  · exact .inl ⟨_, if_pos zero, if_pos zero⟩
  rw [if_neg zero, if_neg zero]
  simp only [rep.transact_append rep.instances_under]
  cases found : r.under? cluster with
  | none => exact .inl ⟨.clusterNotFound cluster, rfl, rfl⟩
  | some e => exact .inr ⟨_, _, _, rfl, rfl, rep.putInstance cluster _ found⟩

/-- Adding follows the roster, unless a cluster that it accepts gets no number any more. -/
theorem add (a : Addition) :
    (∃ e, r.add a = .error e ∧ t.add a = .error (.refused e)) ∨
      (∃ receipt r', r.add a = .ok (receipt, r') ∧
        ((r.length = UInt64.size ∧ t.add a = .error .orderExhausted) ∨
          ∃ t', t.add a = .ok (receipt, t') ∧ Represents r' t')) := by
  cases a with
  | cluster c =>
    rcases rep.addCluster c with ⟨e, refused, same⟩ | ⟨r', accepted, outcome⟩
    · exact .inl ⟨e, by rw [Roster.add, refused]; rfl, by rw [Tables.add, same]; rfl⟩
    · refine .inr ⟨.cluster, r', by rw [Roster.add, accepted]; rfl, ?_⟩
      rcases outcome with ⟨full, failed⟩ | ⟨t', same, rep'⟩
      · exact .inl ⟨full, by rw [Tables.add, failed]; rfl⟩
      · exact .inr ⟨t', by rw [Tables.add, same]; rfl, rep'⟩
  | host cluster h =>
    rcases rep.addHost cluster h with ⟨e, refused, same⟩ | ⟨added, r', t', accepted, same, rep'⟩
    · exact .inl ⟨e, by rw [Roster.add, refused]; rfl, by rw [Tables.add, same]⟩
    · exact .inr ⟨.host added, r', by rw [Roster.add, accepted]; rfl, .inr ⟨t', by rw [Tables.add, same], rep'⟩⟩
  | inst cluster i =>
    rcases rep.addInstance cluster i with ⟨e, refused, same⟩ | ⟨added, r', t', accepted, same, rep'⟩
    · exact .inl ⟨e, by rw [Roster.add, refused]; rfl, by rw [Tables.add, same]⟩
    · exact .inr ⟨.inst added, r', by rw [Roster.add, accepted]; rfl, .inr ⟨t', by rw [Tables.add, same], rep'⟩⟩

end Represents

end ClusterRegister.Register
