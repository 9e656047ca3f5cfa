import ClusterRegister.Proofs.Runs

/-!
# Consistency

What holds of the contents of a store that was opened empty, after any run: the four tables fit together,
all bytes are those of what they mean, and every record names its key. No number is lacking as long as fewer
than `2 ^ 64` clusters are accepted.
-/

namespace ClusterRegister

open ClusterRegister.Text

/-- A host as it is listed under a cluster. -/
structure Host.ListedUnder (cluster : String) (h : Host) : Prop where
  clusterId : h.clusterId = cluster
  id : h.id = h.ip
  ip : isBlankText h.ip = false

/-- An instance as it is listed under a cluster. -/
structure Instance.ListedUnder (cluster : String) (i : Instance) : Prop where
  clusterId : i.clusterId = cluster
  id : i.id = i.host ++ ":" ++ natText i.port.toNat
  host : isBlankText i.host = false
  port : 1 ≤ i.port.toNat

end ClusterRegister

namespace ClusterRegister.Register

open ClusterRegister.Files ClusterRegister.Record ClusterRegister.Text

/-- Contents with `n` clusters whose tables fit together. -/
structure Consistent (t : Tables) (n : Nat) : Prop where
  /-- the order has exactly the numbers below `n` -/
  numbers : t.order.keys.map UInt64.toNat = List.range n
  ordered_once : t.order.values.Nodup
  ordered_iff : ∀ id, id ∈ t.order.values ↔ id ∈ t.clusters.keys
  hosts_known : ∀ id ∈ t.hosts.keys, id ∈ t.clusters.keys
  instances_known : ∀ id ∈ t.instances.keys, id ∈ t.clusters.keys
  clusters : ∀ id blob, t.clusters.get? id = some blob →
    ∃ c : Cluster, decode blob = .ok c ∧ blob = encode c ∧ c.id = id ∧ isBlankText id = false
  hosts : ∀ id blob, t.hosts.get? id = some blob →
    ∃ hs : List Host, decodeList blob = .ok hs ∧ blob = encodeList hs ∧ hs ≠ [] ∧ ∀ h ∈ hs, h.ListedUnder id
  instances : ∀ id blob, t.instances.get? id = some blob →
    ∃ is : List Instance,
      decodeList blob = .ok is ∧ blob = encodeList is ∧ is ≠ [] ∧ ∀ i ∈ is, i.ListedUnder id

/-- An entry whose id is not blank and whose records name it. -/
structure RosterEntry.Sound (e : RosterEntry) : Prop where
  id : isBlankText e.cluster.id = false
  hosts : ∀ h ∈ e.hosts, h.ListedUnder e.cluster.id
  instances : ∀ i ∈ e.instances, i.ListedUnder e.cluster.id

def Roster.Sound (r : Roster) : Prop := ∀ e ∈ r, e.Sound

theorem Roster.sound_nil : Roster.Sound [] := fun e nowhere => by cases nowhere

theorem Roster.Sound.add {r r' : Roster} (sound : r.Sound) {a : Addition} {receipt : Receipt}
    (added : r.Added a receipt r') : r'.Sound := by
  cases added with
  | cluster not_blank _ =>
    intro e member
    rcases List.mem_append.1 member with old | new
    · exact sound e old
    · rw [List.mem_singleton.1 new]
      exact ⟨not_blank, by simp, by simp⟩
  | host not_blank _ same =>
    refine Roster.forall_change sound fun e here entry => ⟨entry.id, ?_, entry.instances⟩
    intro h member
    rcases List.mem_append.1 member with old | new
    · exact entry.hosts h old
    · rw [List.mem_singleton.1 new, same]
      exact ⟨here.symm, rfl, not_blank⟩
  | inst not_blank not_zero _ same =>
    refine Roster.forall_change sound fun e here entry => ⟨entry.id, entry.hosts, ?_⟩
    intro i member
    rcases List.mem_append.1 member with old | new
    · exact entry.instances i old
    · rw [List.mem_singleton.1 new, same]
      have port := Nat.pos_of_ne_zero fun zero => not_zero (UInt16.toNat_inj.1 zero)
      exact ⟨here.symm, rfl, not_blank, port⟩

private theorem keys_numbered {ids : List String} (fits : ids.length ≤ UInt64.size) :
    ((numbered ids).map (·.1)).map UInt64.toNat = List.range ids.length := by
  refine List.ext_getElem (by simp [numbered]) fun n below _ => ?_
  have small : n < ids.length := by simpa [numbered] using below
  simp only [numbered, List.getElem_map, List.getElem_mapIdx, List.getElem_range]
  exact toNat_ofNat_of_lt_size (by omega)

section Contents

variable {r : Roster} {t : Tables} (rep : Represents r t) (sound : r.Sound)

include rep

theorem Represents.mem_ids_iff (id : String) : id ∈ r.ids ↔ id ∈ t.clusters.keys := by
  rw [Table.mem_keys_iff, rep.contains_cluster, Option.isSome_iff_ne_none, Ne, Roster.under?_eq_none_iff,
    Classical.not_not]

omit rep in
private theorem eq_encodeList_of_listed {α : Type} [Stored α] {as : List α} {blob : Bytes}
    (found : listed as = some blob) : as ≠ [] ∧ blob = encodeList as := by
  cases as with
  | nil => cases found
  | cons a as =>
    cases found
    exact ⟨List.cons_ne_nil a as, rfl⟩

/-- Bytes in a table of lists are those of the list of an entry. -/
theorem Represents.listed_entry {α : Type} [Stored α] {lists : RosterEntry → List α} {id : String}
    {blob : Bytes} (found : (r.under? id).bind (fun e => listed (lists e)) = some blob) :
    ∃ e ∈ r, e.cluster.id = id ∧ id ∈ t.clusters.keys ∧ lists e ≠ [] ∧ blob = encodeList (lists e) := by
  obtain ⟨e, entry, list⟩ := Option.bind_eq_some_iff.1 found
  obtain ⟨nonempty, same⟩ := eq_encodeList_of_listed list
  have member := Roster.mem_of_under? entry
  have name := Roster.id_of_under? entry
  refine ⟨e, member, name, ?_, nonempty, same⟩
  rw [← rep.mem_ids_iff, ← name]
  exact List.mem_map_of_mem member

theorem Represents.length_eq : r.length = t.order.entries.length := by
  rw [rep.order, numbered, List.length_mapIdx, Roster.ids, List.length_map]

include sound

/-- The contents of a sound roster fit together. -/
theorem Represents.consistent : Consistent t r.length where
  numbers := by
    have length : r.ids.length = r.length := List.length_map _
    rw [Table.keys, rep.order, keys_numbered (by rw [length]; exact rep.fits), length]
  ordered_once := by
    rw [Table.values, rep.order, values_numbered]
    exact rep.distinct
  ordered_iff id := by
    rw [Table.values, rep.order, values_numbered]
    exact rep.mem_ids_iff id
  hosts_known id key := by
    obtain ⟨blob, under⟩ := Table.contains_iff.1 (Table.mem_keys_iff.1 key)
    rw [rep.hosts id] at under
    obtain ⟨_, _, _, known, _⟩ := rep.listed_entry under
    exact known
  instances_known id key := by
    obtain ⟨blob, under⟩ := Table.contains_iff.1 (Table.mem_keys_iff.1 key)
    rw [rep.instances id] at under
    obtain ⟨_, _, _, known, _⟩ := rep.listed_entry under
    exact known
  clusters id blob under := by
    rw [rep.clusters id] at under
    obtain ⟨e, found, rfl⟩ := Option.map_eq_some_iff.1 under
    have same := Roster.id_of_under? found
    exact ⟨e.cluster.carried, decode_cluster _, (encode_carried _).symm, same,
      same ▸ (sound e (Roster.mem_of_under? found)).id⟩
  hosts id blob under := by
    rw [rep.hosts id] at under
    obtain ⟨e, member, name, _, nonempty, same⟩ := rep.listed_entry under
    refine ⟨e.hosts, by rw [same, decodeList_exact], same, nonempty, ?_⟩
    rw [← name]
    exact (sound e member).hosts
  instances id blob under := by
    rw [rep.instances id] at under
    obtain ⟨e, member, name, _, nonempty, same⟩ := rep.listed_entry under
    refine ⟨e.instances, by rw [same, decodeList_exact], same, nonempty, ?_⟩
    rw [← name]
    exact (sound e member).instances

end Contents

def clusterCount (as : List Addition) : Nat := as.countP Addition.isCluster

private theorem clusterCount_append (as bs : List Addition) :
    clusterCount (as ++ bs) = clusterCount as + clusterCount bs :=
  List.countP_append

/-- What the contents accept, the roster accepts too. -/
theorem Represents.added {r : Roster} {t t' : Tables} {a : Addition} {receipt : Receipt} (rep : Represents r t)
    (accepted : t.add a = .ok (receipt, t')) : ∃ r', r.Added a receipt r' ∧ Represents r' t' := by
  -- of the outcomes that the roster allows, only the accepted one is left
  rcases rep.add a with ⟨e, _, failed⟩ | ⟨receipt', r', same, ⟨_, failed⟩ | ⟨tables, outcome, rep'⟩⟩
  · rw [accepted] at failed
    cases failed
  · rw [accepted] at failed
    cases failed
  · rw [accepted] at outcome
    cases outcome
    exact ⟨r', Roster.added_of_add same, rep'⟩

/-- The roster follows the additions that its contents accept. -/
theorem Represents.accepts {r : Roster} {t t' : Tables} {as : List Addition} (rep : Represents r t)
    (sound : r.Sound) (accepted : Accepts t as t') :
    ∃ r', Represents r' t' ∧ r'.Sound ∧ r'.length = r.length + clusterCount as := by
  induction accepted generalizing r with
  | nil t => exact ⟨r, rep, sound, rfl⟩
  | cons accepted _ ih =>
    obtain ⟨r', added, rep'⟩ := rep.added accepted
    obtain ⟨r'', rep'', sound'', length⟩ := ih rep' (sound.add added)
    refine ⟨r'', rep'', sound'', ?_⟩
    rw [length, added.length_eq, added.receipt_isCluster, clusterCount, clusterCount, List.countP_cons]
    omega

/-- The numbers are used up only by as many clusters. -/
theorem Represents.length_of_exhausted {r : Roster} {t : Tables} (rep : Represents r t)
    (exhausted : Exhausted t) : r.length = UInt64.size := by
  obtain ⟨c, failed⟩ := exhausted
  rcases rep.addCluster c with ⟨e, _, refused⟩ | ⟨r', _, ⟨full, _⟩ | ⟨t', accepted, _⟩⟩
  · rw [failed] at refused
    cases refused
  · exact full
  · rw [failed] at accepted
    cases accepted

/-- After any run on a store that was opened empty, the tables fit together and have all the clusters that
the run accepted. If these are fewer than `2 ^ 64`, no operation of the run lacked a number. -/
theorem run_consistent {before tree : Tree} {path : String} {place : Place}
    (opened : before.openStore path = (.ok (place, .empty), tree)) (ops : List Operation) :
    let new : Store := ⟨tree, path, place, .empty⟩
    Accepts .empty (new.additions ops) (new.run ops).tables ∧
      Consistent (new.run ops).tables (clusterCount (new.additions ops)) ∧
      (clusterCount (new.additions ops) < UInt64.size → ∀ done op rest, ops = done ++ op :: rest →
        ¬ ((new.run done).perform op).1.Overflows) := by
  intro new
  have is_open : new.tree.HasOpen new.path new.place := .of_openStore opened
  obtain ⟨accepted, _⟩ := run_accepts is_open ops
  obtain ⟨r, rep, sound, length⟩ := Represents.empty.accepts Roster.sound_nil accepted
  rw [List.length_nil, Nat.zero_add] at length
  refine ⟨accepted, length ▸ rep.consistent sound, ?_⟩
  rintro few done op rest rfl overflows
  -- up to the operation there are at most as many clusters as at the end of the run
  obtain ⟨up_to, open_there⟩ := run_accepts is_open done
  obtain ⟨r₁, rep₁, sound₁, length₁⟩ := Represents.empty.accepts Roster.sound_nil up_to
  have step := perform_follows open_there op
  obtain ⟨r₂, rep₂, _, length₂⟩ := rep₁.accepts sound₁ step.accepted
  have full := rep₂.length_of_exhausted (step.exhausted overflows)
  rw [additions_append, Store.additions, clusterCount_append, clusterCount_append] at few
  rw [List.length_nil, Nat.zero_add] at length₁
  omega

/-- A run on a new store: a cluster is added, then a command adds a host while its output breaks off, and
then the store is opened again. -/
theorem new_store_consistent :
    let ops : List Operation :=
      [.call (.add (.cluster ⟨"a", "w", .epoch⟩)),
        .command (.line ⟨"w", "u", 22, .epoch⟩ "cluster a host add --ip=h") (.limited (some 5) true),
        .call .reopen]
    newStore.additions ops = [.cluster ⟨"a", "w", .epoch⟩, .host "a" (.fresh "h" "u" 22)] ∧
      Consistent (newStore.run ops).tables 1 := by
  intro ops
  have added : newStore.additions ops = [.cluster ⟨"a", "w", .epoch⟩, .host "a" (.fresh "h" "u" 22)] := by decide +kernel
  obtain ⟨_, consistent, _⟩ := run_consistent newStore_opened ops
  change Consistent (newStore.run ops).tables (clusterCount (newStore.additions ops)) at consistent
  rw [added] at consistent
  exact ⟨added, consistent⟩

end ClusterRegister.Register
