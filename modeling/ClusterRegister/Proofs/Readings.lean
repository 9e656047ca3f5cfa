import ClusterRegister.Proofs.Prechecks
import ClusterRegister.Proofs.Refinement

/-!
# Readings

What is read from a store whatever its tables contain. The clusters are listed in the order of their numbers
without the ids that have no record, unless a record does not decode: the first one of those is the error. The
topology of a cluster is its record and its two lists, or the error of the first of them that cannot be read. No
reading changes anything (`readings_of_contents`).
-/

namespace ClusterRegister.Register

open ClusterRegister.Console ClusterRegister.Line ClusterRegister.Record

namespace Tables

/-- The record of an id does not decode. -/
def Damaged (t : Tables) (id : String) (reason : Json.Malformed) : Prop :=
  ∃ blob, t.clusters.get? id = some blob ∧ decode (α := Cluster) blob = .error reason

/-- The record of an id, if there is one that decodes. -/
def record? (t : Tables) (id : String) : Option Cluster :=
  (t.clusters.get? id).bind fun blob => (decode blob).toOption

/-- Of the ids that are numbered, the one with the lowest number whose record does not decode. -/
def FirstDamaged (t : Tables) (id : String) (reason : Json.Malformed) : Prop :=
  ∃ n, t.order.get? n = some id ∧ t.Damaged id reason ∧
    ∀ m < n, ∀ other, t.order.get? m = some other → ∀ why, ¬ t.Damaged other why

/-- The error of the first part of a topology that cannot be read. -/
inductive FirstFault (t : Tables) (id : String) : Error → Prop
  | record {e : Error} : t.getCluster id = .error e → FirstFault t id e
  | hosts {e : Error} {c : Cluster} : t.getCluster id = .ok c → t.listHosts id = .error e → FirstFault t id e
  | instances {e : Error} {c : Cluster} {hs : List Host} : t.getCluster id = .ok c → t.listHosts id = .ok hs →
    t.listInstances id = .error e → FirstFault t id e

section Records

variable {t : Tables} {id : String}

theorem Damaged.unique {reason reason' : Json.Malformed} (one : t.Damaged id reason)
    (other : t.Damaged id reason') : reason = reason' := by
  obtain ⟨blob, found, corrupt⟩ := one
  obtain ⟨blob', found', corrupt'⟩ := other
  rw [found] at found'
  cases found'
  rw [corrupt] at corrupt'
  cases corrupt'
  rfl

private theorem record?_of_missing (missing : t.clusters.get? id = none) : t.record? id = none := by
  rw [record?, missing, Option.bind_none]

private theorem record?_of_found {blob : Bytes} (found : t.clusters.get? id = some blob) :
    t.record? id = (decode blob).toOption := by
  rw [record?, found, Option.bind_some]

/-- An id has no record, or one that decodes, or one that does not. -/
theorem record_outcome (t : Tables) (id : String) :
    (id ∉ t.clusters.keys ∧ t.clusters.get? id = none) ∨
      (∃ blob c, t.clusters.get? id = some blob ∧ decode blob = .ok c ∧ t.record? id = some c) ∨
      (∃ blob reason, t.clusters.get? id = some blob ∧ decode (α := Cluster) blob = .error reason ∧
        t.record? id = none) := by
  by_cases known : id ∈ t.clusters.keys
  · obtain ⟨blob, found⟩ := Table.contains_iff.1 (Table.mem_keys_iff.1 known)
    have record := record?_of_found found
    cases meaning : decode (α := Cluster) blob with
    | ok c =>
      rw [meaning] at record
      exact .inr (.inl ⟨blob, c, found, meaning, record⟩)
    | error reason =>
      rw [meaning] at record
      exact .inr (.inr ⟨blob, reason, found, meaning, record⟩)
  · exact .inl ⟨known, get?_eq_none known⟩

private theorem not_damaged_of_missing (missing : t.clusters.get? id = none) (reason : Json.Malformed) :
    ¬ t.Damaged id reason := by
  rintro ⟨blob, found, _⟩
  rw [missing] at found
  cases found

private theorem not_damaged_of_decodes {blob : Bytes} {c : Cluster} (found : t.clusters.get? id = some blob)
    (meaning : decode blob = .ok c) (reason : Json.Malformed) : ¬ t.Damaged id reason := by
  rintro ⟨blob', found', corrupt⟩
  rw [found] at found'
  cases found'
  rw [meaning] at corrupt
  cases corrupt

/-- The records that can be read are those that are there and not damaged. -/
theorem not_damaged_iff :
    (∀ reason, ¬ t.Damaged id reason) ↔ (id ∈ t.clusters.keys → (t.record? id).isSome = true) := by
  rcases record_outcome t id with ⟨unknown, missing⟩ | ⟨blob, c, found, meaning, record⟩ |
    ⟨blob, reason, found, corrupt, nothing⟩
  · exact ⟨fun _ known => absurd known unknown, fun _ => not_damaged_of_missing missing⟩
  · exact ⟨fun _ _ => by rw [record]; rfl, fun _ => not_damaged_of_decodes found meaning⟩
  · have known : id ∈ t.clusters.keys := Table.mem_keys_iff.2 (Table.contains_iff.2 ⟨blob, found⟩)
    constructor
    · intro sound
      exact absurd ⟨blob, found, corrupt⟩ (sound reason)
    · intro readable
      rw [nothing] at readable
      cases readable known

end Records

section Ids

variable {t t' : Tables} {ids : List String}

private theorem readClusters_of_missing {id : String} (missing : t.clusters.get? id = none) :
    t.readClusters (id :: ids) = t.readClusters ids := by
  rw [readClusters, missing]

private theorem readClusters_of_decodes {id : String} {blob : Bytes} {c : Cluster}
    (found : t.clusters.get? id = some blob)
    (meaning : decode blob = .ok c) : t.readClusters (id :: ids) = (t.readClusters ids).map (c :: ·) := by
  rw [readClusters, found]
  simp only [meaning, interpret]
  cases t.readClusters ids <;> rfl

private theorem readClusters_of_corrupt {id : String} {blob : Bytes} {reason : Json.Malformed}
    (found : t.clusters.get? id = some blob) (corrupt : decode (α := Cluster) blob = .error reason) :
    t.readClusters (id :: ids) = .error (.corrupted .clusters id reason) := by
  rw [readClusters, found]
  simp only [corrupt, interpret]
  rfl

/-- Records are read up to the first one that is damaged, or all of them are. -/
theorem readClusters_outcome (t : Tables) (ids : List String) :
    ((∀ id ∈ ids, ∀ reason, ¬ t.Damaged id reason) ∧ t.readClusters ids = .ok (ids.filterMap t.record?)) ∨
      ∃ front id back reason, ids = front ++ id :: back ∧ (∀ other ∈ front, ∀ why, ¬ t.Damaged other why) ∧
        t.Damaged id reason ∧ t.readClusters ids = .error (.corrupted .clusters id reason) := by
  induction ids with
  | nil => exact .inl ⟨List.forall_mem_nil _, rfl⟩
  | cons id ids ih =>
    -- a first id that is not damaged is before the first damaged one
    have undamaged (sound : ∀ reason, ¬ t.Damaged id reason) {front : List String}
        (rest : ∀ other ∈ front, ∀ why, ¬ t.Damaged other why) : ∀ other ∈ id :: front, ∀ why, ¬ t.Damaged other why := by
      intro other member
      rcases List.mem_cons.1 member with rfl | later
      · exact sound
      · exact rest other later
    rcases record_outcome t id with ⟨_, missing⟩ | ⟨blob, c, found, meaning, record⟩ |
      ⟨blob, reason, found, corrupt, _⟩
    · have sound := not_damaged_of_missing missing
      rw [readClusters_of_missing missing, List.filterMap_cons_none (record?_of_missing missing)]
      rcases ih with ⟨rest, listed⟩ | ⟨front, bad, back, reason, split, before, damaged, failed⟩
      · exact .inl ⟨undamaged sound rest, listed⟩
      · exact .inr ⟨id :: front, bad, back, reason, by rw [split, List.cons_append], undamaged sound before, damaged,
          failed⟩
    · have sound := not_damaged_of_decodes found meaning
      rw [readClusters_of_decodes found meaning, List.filterMap_cons_some record]
      rcases ih with ⟨rest, listed⟩ | ⟨front, bad, back, reason, split, before, damaged, failed⟩
      · exact .inl ⟨undamaged sound rest, by rw [listed]; rfl⟩
      · exact .inr ⟨id :: front, bad, back, reason, by rw [split, List.cons_append], undamaged sound before, damaged,
          by rw [failed]; rfl⟩
    · exact .inr ⟨[], id, ids, reason, rfl, List.forall_mem_nil _, ⟨blob, found, corrupt⟩,
        readClusters_of_corrupt found corrupt⟩

/-- What is read for ids is what their records are. -/
theorem readClusters_congr (same : ∀ id ∈ ids, t'.clusters.get? id = t.clusters.get? id) :
    t'.readClusters ids = t.readClusters ids := by
  induction ids with
  | nil => rfl
  | cons id ids ih =>
    rw [readClusters, readClusters, same id (.head _), ih fun other later => same other (.tail _ later)]

theorem readClusters_concat {id : String} {blob : Bytes} {c : Cluster} (found : t.clusters.get? id = some blob)
    (meaning : decode blob = .ok c) (ids : List String) :
    t.readClusters (ids ++ [id]) = (t.readClusters ids).map (· ++ [c]) := by
  induction ids with
  | nil =>
    rw [List.nil_append, readClusters_of_decodes found meaning]
    rfl
  | cons first ids ih =>
    rw [List.cons_append]
    rcases record_outcome t first with ⟨_, missing⟩ | ⟨_, d, found', meaning', _⟩ | ⟨_, reason, found', corrupt, _⟩
    · rw [readClusters_of_missing missing, readClusters_of_missing missing, ih]
    · rw [readClusters_of_decodes found' meaning', readClusters_of_decodes found' meaning', ih]
      cases t.readClusters ids <;> rfl
    · rw [readClusters_of_corrupt found' corrupt, readClusters_of_corrupt found' corrupt]
      rfl

end Ids

section Listing

variable {t : Tables} {id id' : String} {reason reason' : Json.Malformed}

theorem mem_values_iff : id ∈ t.order.values ↔ ∃ n, t.order.get? n = some id := by
  simp only [Table.values, List.mem_map, Prod.exists, exists_eq_right, Table.mem_entries_iff]

theorem FirstDamaged.unique (one : t.FirstDamaged id reason) (other : t.FirstDamaged id' reason') :
    id = id' ∧ reason = reason' := by
  obtain ⟨n, here, damaged, first⟩ := one
  obtain ⟨n', here', damaged', first'⟩ := other
  have same : n = n' := by
    rw [← UInt64.toNat_inj]
    refine Nat.le_antisymm (Nat.le_of_not_lt fun above => ?_) (Nat.le_of_not_lt fun below => ?_)
    · exact first n' (UInt64.lt_iff_toNat_lt.2 above) id' here' reason' damaged'
    · exact first' n (UInt64.lt_iff_toNat_lt.2 below) id here reason damaged
  subst same
  rw [here] at here'
  cases here'
  exact ⟨rfl, damaged.unique damaged'⟩

/-- The first damaged record among the ids in their order has the lowest number. -/
theorem firstDamaged_of_split {front back : List String} (split : t.order.values = front ++ id :: back)
    (before : ∀ other ∈ front, ∀ why, ¬ t.Damaged other why) (damaged : t.Damaged id reason) :
    t.FirstDamaged id reason := by
  obtain ⟨low, rest, entries, rfl, later⟩ := List.map_eq_append_iff.1 split
  obtain ⟨⟨n, id'⟩, high, rfl, same, _⟩ := List.map_eq_cons_iff.1 later
  cases same
  refine ⟨n, Table.mem_entries_iff.1 ?_, damaged, ?_⟩
  · rw [entries]
    exact List.mem_append_right _ (.head _)
  · intro m below other found
    have member := Table.mem_entries_iff.2 found
    have ascending := t.order.ascending
    rw [entries] at member ascending
    rcases List.mem_append.1 member with lower | not_lower
    · exact before other (List.mem_map_of_mem lower)
    · have at_least : ¬ compare m n = .lt := by
        rcases List.mem_cons.1 not_lower with same | higher
        · cases same
          simp
        · have above := List.rel_of_pairwise_cons (List.pairwise_append.1 ascending).2.1 higher
          rw [Std.OrientedCmp.gt_of_lt above]
          decide
      exact absurd (Std.compare_eq_lt.2 below) at_least

private theorem listClusters_outcome (t : Tables) :
    ((∀ id ∈ t.order.values, ∀ reason, ¬ t.Damaged id reason) ∧
        t.listClusters = .ok (t.order.values.filterMap t.record?)) ∨
      ∃ id reason, t.FirstDamaged id reason ∧ t.listClusters = .error (.corrupted .clusters id reason) := by
  rcases readClusters_outcome t t.order.values with sound | ⟨front, id, back, reason, split, before, damaged, failed⟩
  · exact .inl sound
  · exact .inr ⟨id, reason, firstDamaged_of_split split before damaged, failed⟩

/-- The listing fails with the damaged record of the lowest number. -/
theorem listClusters_eq_error_iff {e : Error} :
    t.listClusters = .error e ↔ ∃ id reason, t.FirstDamaged id reason ∧ e = .corrupted .clusters id reason := by
  rcases listClusters_outcome t with ⟨sound, listed⟩ | ⟨id, reason, first, failed⟩
  · rw [listed]
    constructor
    · intro failed
      cases failed
    · rintro ⟨id, reason, ⟨n, here, damaged, _⟩, _⟩
      exact absurd damaged (sound id (mem_values_iff.2 ⟨n, here⟩) reason)
  · rw [failed]
    constructor
    · intro same
      cases same
      exact ⟨id, reason, first, rfl⟩
    · rintro ⟨id', reason', first', rfl⟩
      obtain ⟨rfl, rfl⟩ := first.unique first'
      rfl

/-- The listing succeeds if every record that is numbered and there can be read, and has those records. -/
theorem listClusters_eq_ok_iff {cs : List Cluster} :
    t.listClusters = .ok cs ↔
      (∀ id ∈ t.order.values, id ∈ t.clusters.keys → (t.record? id).isSome = true) ∧
        cs = t.order.values.filterMap t.record? := by
  simp only [← not_damaged_iff]
  rcases listClusters_outcome t with ⟨sound, listed⟩ | ⟨id, reason, ⟨n, here, damaged, _⟩, failed⟩
  · rw [listed]
    constructor
    · intro same
      cases same
      exact ⟨sound, rfl⟩
    · rintro ⟨_, rfl⟩
      rfl
  · rw [failed]
    constructor
    · intro listed
      cases listed
    · rintro ⟨sound, _⟩
      exact absurd damaged (sound id (mem_values_iff.2 ⟨n, here⟩) reason)

end Listing

section Topologies

variable {t : Tables} {id : String}

/-- A topology is what its three parts are, or the error of the first of them that fails. -/
theorem topology_outcome (t : Tables) (id : String) :
    (∃ c hs is, t.getCluster id = .ok c ∧ t.listHosts id = .ok hs ∧ t.listInstances id = .ok is ∧
        t.topology id = .ok ⟨c, hs, is⟩) ∨
      ∃ e, t.FirstFault id e ∧ t.topology id = .error e := by
  rw [topology]
  cases record : t.getCluster id with
  | error e => exact .inr ⟨e, .record record, rfl⟩
  | ok c =>
    cases hosts : t.listHosts id with
    | error e => exact .inr ⟨e, .hosts record hosts, rfl⟩
    | ok hs =>
      cases instances : t.listInstances id with
      | error e => exact .inr ⟨e, .instances record hosts instances, rfl⟩
      | ok is => exact .inl ⟨c, hs, is, rfl, rfl, rfl, rfl⟩

theorem topology_eq_ok_iff {topology : Topology} :
    t.topology id = .ok topology ↔
      t.getCluster id = .ok topology.cluster ∧ t.listHosts id = .ok topology.hosts ∧
        t.listInstances id = .ok topology.instances := by
  constructor
  · intro found
    rcases topology_outcome t id with ⟨c, hs, is, record, hosts, instances, same⟩ | ⟨e, _, failed⟩
    · rw [same] at found
      cases found
      exact ⟨record, hosts, instances⟩
    · rw [failed] at found
      cases found
  · rintro ⟨record, hosts, instances⟩
    rw [Tables.topology, record, hosts, instances]
    rfl

theorem topology_eq_error_iff {e : Error} : t.topology id = .error e ↔ t.FirstFault id e := by
  constructor
  · intro failed
    rcases topology_outcome t id with ⟨c, hs, is, _, _, _, found⟩ | ⟨e', fault, same⟩
    · rw [found] at failed
      cases failed
    · rw [same] at failed
      cases failed
      exact fault
  · intro fault
    rw [topology]
    cases fault with
    | record failed =>
      rw [failed]
      rfl
    | hosts record failed =>
      rw [record, failed]
      rfl
    | instances record hosts failed =>
      rw [record, hosts, failed]
      rfl

/-- There is a cluster, there is none, or its record fails, just as it is read. -/
theorem clusterExists_outcome (t : Tables) (id : String) :
    (∃ c, t.getCluster id = .ok c ∧ t.clusterExists id = .ok true) ∨
      (t.getCluster id = .error (.clusterNotFound id) ∧ t.clusterExists id = .ok false) ∨
      ∃ e, t.getCluster id = .error e ∧ e ≠ .clusterNotFound id ∧ t.clusterExists id = .error e := by
  rcases record_outcome t id with ⟨unknown, missing⟩ | ⟨blob, c, found, meaning, _⟩ |
    ⟨blob, reason, found, corrupt, _⟩
  · exact .inr (.inl ⟨by rw [getCluster, missing], clusterExists_missing unknown⟩)
  · have record : t.getCluster id = .ok c := by
      rw [getCluster, found]
      simp only [meaning, interpret]
    exact .inl ⟨c, record, clusterExists_sound found meaning⟩
  · have record : t.getCluster id = .error (.corrupted .clusters id reason) := by
      rw [getCluster, found]
      simp only [corrupt, interpret]
    exact .inr (.inr ⟨_, record, Error.noConfusion, clusterExists_damaged found corrupt⟩)

end Topologies

end Tables

/-- The calls that only read. -/
def Call.reads : Call → Bool
  | .add _ => false
  | .reopen => false
  | _ => true

theorem Store.call_of_reads {c : Call} (reads : c.reads = true) (s : Store) : (s.call c).2 = s := by
  cases c with
  | add a => cases reads
  | reopen => cases reads
  | listClusters => rfl
  | getCluster id => rfl
  | clusterExists id => rfl
  | listHosts cluster => rfl
  | listInstances cluster => rfl
  | topology cluster => rfl

/-- A command that adds nothing leaves the contents as they are, whatever happens to its output. -/
theorem tables_run {env : Surroundings} {request : Request} (adds_nothing : addition? env request = none) (t : Tables)
    (sink : Sink) : ((Console.run env request).on ⟨t, sink⟩).2.tables = t := by
  rw [(run_replies env t request).on_sink, requestReply, adds_nothing]

/-- On any contents: the clusters are listed by their numbers unless one of their records is damaged, the first of
which is then the error; a topology has its three parts or the error of the first of them that fails; a cluster is
there just as it can be read; and no call or command that only reads changes the contents. -/
theorem readings_of_contents (t : Tables) :
    ((∃ cs, t.listClusters = .ok cs) ↔
        ∀ id ∈ t.order.values, id ∈ t.clusters.keys → (t.record? id).isSome = true) ∧
      (∀ cs, t.listClusters = .ok cs → cs = t.order.values.filterMap t.record?) ∧
      (∀ e, t.listClusters = .error e ↔
        ∃ id reason, t.FirstDamaged id reason ∧ e = .corrupted .clusters id reason) ∧
      (∀ id topology, t.topology id = .ok topology ↔
        t.getCluster id = .ok topology.cluster ∧ t.listHosts id = .ok topology.hosts ∧
          t.listInstances id = .ok topology.instances) ∧
      (∀ id e, t.topology id = .error e ↔ t.FirstFault id e) ∧
      (∀ id, (t.clusterExists id = .ok true ↔ ∃ c, t.getCluster id = .ok c) ∧
        (t.clusterExists id = .ok false ↔ t.getCluster id = .error (.clusterNotFound id)) ∧
        ∀ e, t.clusterExists id = .error e ↔ t.getCluster id = .error e ∧ e ≠ .clusterNotFound id) ∧
      (∀ (s : Store) (c : Call), c.reads = true → (s.call c).2 = s) ∧
      ∀ env request sink, addition? env request = none →
        ((Console.run env request).on ⟨t, sink⟩).2.tables = t := by
  refine ⟨?succeeds, ?listed, fun e => Tables.listClusters_eq_error_iff,
    fun id topology => Tables.topology_eq_ok_iff, fun id e => Tables.topology_eq_error_iff, ?existence,
    fun s c reads => s.call_of_reads reads, fun env request sink adds_nothing => tables_run adds_nothing t sink⟩
  case succeeds =>
    constructor
    · rintro ⟨cs, listed⟩
      exact (Tables.listClusters_eq_ok_iff.1 listed).1
    · intro readable
      exact ⟨_, Tables.listClusters_eq_ok_iff.2 ⟨readable, rfl⟩⟩
  case listed =>
    intro cs listed
    exact (Tables.listClusters_eq_ok_iff.1 listed).2
  case existence =>
    intro id
    rcases t.clusterExists_outcome id with ⟨c, record, there⟩ | ⟨record, missing⟩ | ⟨e, record, other, failed⟩
    · rw [record, there]
      simp
    · rw [record, missing]
      simp
    · rw [record, failed]
      refine ⟨by simp, by simpa using other, fun e' => ?_⟩
      simp only [Except.error.injEq]
      exact ⟨fun same => ⟨same, same ▸ other⟩, And.left⟩

/-- Contents that number an id without a record, then one whose record does not decode, then one whose record
does. -/
def patchy : Tables :=
  { Tables.empty with
    clusters := (Table.empty.insert "bad" [0x5B]).insert "good" (encode (⟨"good", "w", .epoch⟩ : Cluster))
    order := ((Table.empty.insert 3 "gone").insert 5 "bad").insert 9 "good" }

private theorem patchy_damaged : patchy.Damaged "bad" ⟨.endInList, 1, 1⟩ := ⟨[0x5B], rfl, rfl⟩

private theorem patchy_firstDamaged : patchy.FirstDamaged "bad" ⟨.endInList, 1, 1⟩ := by
  refine ⟨5, rfl, patchy_damaged, ?_⟩
  intro m below other found why
  have entry : (m, other) ∈ [((3 : UInt64), "gone"), (5, "bad"), (9, "good")] := Table.mem_entries_iff.2 found
  simp only [List.mem_cons, Prod.mk.injEq, List.not_mem_nil, or_false] at entry
  rcases entry with ⟨_, rfl⟩ | ⟨rfl, _⟩ | ⟨rfl, _⟩
  · exact Tables.not_damaged_of_missing rfl why
  · exact absurd below (by decide)
  · exact absurd below (by decide)

/-- The damaged record is the error of the listing, but not in the way of the others. -/
theorem patchy_readings :
    patchy.listClusters = .error (.corrupted .clusters "bad" ⟨.endInList, 1, 1⟩) ∧
      patchy.topology "good" = .ok ⟨⟨"good", "w", .epoch⟩, [], []⟩ ∧
      patchy.clusterExists "gone" = .ok false ∧
      (Store.call ⟨.fresh, "r.db", ["work", "r.db"], patchy⟩ .listClusters).2.tables = patchy := by
  obtain ⟨_, _, failed, topology, _, existence, calls, _⟩ := readings_of_contents patchy
  refine ⟨(failed _).2 ⟨"bad", _, patchy_firstDamaged, rfl⟩, (topology "good" _).2 ⟨?_, rfl, rfl⟩,
    (existence "gone").2.1.2 rfl, ?_⟩
  · have found : patchy.clusters.get? "good" = some (encode (⟨"good", "w", .epoch⟩ : Cluster)) := rfl
    simp only [Tables.getCluster, found, decode_cluster]
    rfl
  · rw [calls _ .listClusters rfl]

end ClusterRegister.Register
