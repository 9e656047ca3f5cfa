import ClusterRegister.Proofs.Objections
import ClusterRegister.Proofs.Runs
import ClusterRegister.Proofs.StoredForms

/-!
# Retention

Nothing that a store contains is lost or changed by what is done with it, whatever its contents were when it
was opened: keys stay, bytes of clusters and ids in the order stay, bytes that are no list stay, and lists
only grow at their end.
-/

namespace ClusterRegister.Register

open ClusterRegister.Files ClusterRegister.Record

/-- A table of lists of which another one keeps everything: bytes that are no list are the same, and a list
is the start of the list that stands there now. -/
def KeepsLists (α : Type) [Stored α] (table table' : Table String Bytes) : Prop :=
  ∀ key blob, table.get? key = some blob → ∃ blob', table'.get? key = some blob' ∧
    ((∃ reason, decodeList (α := α) blob = .error reason) → blob' = blob) ∧
    (∀ as : List α, decodeList blob = .ok as → ∃ more, decodeList blob' = .ok (as ++ more))

/-- Contents of which others keep everything. -/
structure Keeps (t t' : Tables) : Prop where
  clusters : ∀ id blob, t.clusters.get? id = some blob → t'.clusters.get? id = some blob
  order : ∀ n id, t.order.get? n = some id → t'.order.get? n = some id
  hosts : KeepsLists Host t.hosts t'.hosts
  instances : KeepsLists Instance t.instances t'.instances

section Lists

variable {α : Type} [Stored α]

theorem KeepsLists.refl (table : Table String Bytes) : KeepsLists α table table := by
  intro key blob under
  refine ⟨blob, under, fun _ => rfl, fun as meaning => ⟨[], ?_⟩⟩
  rw [List.append_nil]
  exact meaning

theorem KeepsLists.trans {a b c : Table String Bytes} (first : KeepsLists α a b) (second : KeepsLists α b c) :
    KeepsLists α a c := by
  intro key blob under
  obtain ⟨blob', under', corrupt', list'⟩ := first key blob under
  obtain ⟨blob'', under'', corrupt'', list''⟩ := second key blob' under'
  refine ⟨blob'', under'', ?_, ?_⟩
  · intro corrupt
    have same := corrupt' corrupt
    subst same
    exact corrupt'' corrupt
  · intro as meaning
    obtain ⟨more, meaning'⟩ := list' as meaning
    obtain ⟨still_more, meaning''⟩ := list'' (as ++ more) meaning'
    exact ⟨more ++ still_more, by rw [← List.append_assoc]; exact meaning''⟩

/-- Putting the bytes of a longer list where a list or nothing is keeps all lists. -/
theorem KeepsLists.insert [Exact α] {t : Tables} {name : TableName} {cluster : String} {as : List α}
    (list : t.readList name cluster = .ok as) (a : α) :
    KeepsLists α (t.records name) ((t.records name).insert cluster (encodeList (as ++ [a]))) := by
  intro key blob under
  by_cases here : key = cluster
  -- what stood under the key is a list, since it was read
  · subst here
    have decodes := Tables.decodes_of_readList list under
    refine ⟨_, Table.get?_insert_self _ _ _, ?_, ?_⟩
    · rintro ⟨reason, corrupt⟩
      rw [decodes] at corrupt
      cases corrupt
    · intro as' meaning
      rw [decodes] at meaning
      cases meaning
      exact ⟨[a], decodeList_exact _⟩
  · obtain ⟨blob', under', kept⟩ := KeepsLists.refl (α := α) (t.records name) key blob under
    exact ⟨blob', by rw [Table.get?_insert_ne _ here]; exact under', kept⟩

end Lists

theorem Keeps.refl (t : Tables) : Keeps t t where
  clusters _ _ under := under
  order _ _ under := under
  hosts := .refl _
  instances := .refl _

theorem Keeps.trans {a b c : Tables} (first : Keeps a b) (second : Keeps b c) : Keeps a c where
  clusters id blob under := second.clusters id blob (first.clusters id blob under)
  order n id under := second.order n id (first.order n id under)
  hosts := first.hosts.trans second.hosts
  instances := first.instances.trans second.instances

/-- The next number and the id of a new cluster are both free, so entering it replaces nothing. -/
theorem Keeps.enter {t : Tables} {c : Cluster} (fresh : c.id ∉ t.clusters.keys) {n : UInt64}
    (next : t.nextNumber = some n) :
    Keeps t { t.put .clusters c.id (encode c) with order := t.order.insert n c.id } where
  clusters id blob under := by
    have different : id ≠ c.id := by
      rintro rfl
      exact fresh (Table.mem_keys_iff.2 (Table.contains_iff.2 ⟨blob, under⟩))
    exact (Table.get?_insert_ne t.clusters different (encode c)).trans under
  order number id under := by
    have different : number ≠ n := by
      rintro rfl
      rw [Tables.nextNumber_free next] at under
      cases under
    exact (Table.get?_insert_ne t.order different c.id).trans under
  hosts := .refl _
  instances := .refl _

theorem Keeps.add {t t' : Tables} {a : Addition} {receipt : Receipt} (accepted : t.add a = .ok (receipt, t')) :
    Keeps t t' := by
  cases a with
  | cluster c =>
    rcases addCluster_outcome t c with ⟨e, _, refused⟩ | ⟨no_objection, n, next, outcome⟩
    · rw [Tables.add, refused] at accepted
      cases accepted
    · rw [Tables.add, outcome] at accepted
      cases accepted
      exact .enter (fun known => no_objection 1 _ (.duplicate known)) next
  | host cluster h =>
    rcases addHost_outcome t cluster h with ⟨e, _, refused⟩ | ⟨_, hs, list, outcome⟩
    · rw [Tables.add, refused] at accepted
      cases accepted
    · rw [Tables.add, outcome] at accepted
      cases accepted
      exact ⟨fun _ _ under => under, fun _ _ under => under, .insert list _, .refl _⟩
  | inst cluster i =>
    rcases addInstance_outcome t cluster i with ⟨e, _, refused⟩ | ⟨_, is, list, outcome⟩
    · rw [Tables.add, refused] at accepted
      cases accepted
    · rw [Tables.add, outcome] at accepted
      cases accepted
      exact ⟨fun _ _ under => under, fun _ _ under => under, .refl _, .insert list _⟩

theorem Keeps.accepts {t t' : Tables} {as : List Addition} (accepted : Accepts t as t') : Keeps t t' := by
  induction accepted with
  | nil t => exact .refl t
  | cons added _ ih => exact (Keeps.add added).trans ih

theorem Keeps.mem_keys {t t' : Tables} (keeps : Keeps t t') {id : String} (there : id ∈ t.clusters.keys) :
    id ∈ t'.clusters.keys := by
  obtain ⟨blob, under⟩ := Table.contains_iff.1 (Table.mem_keys_iff.1 there)
  exact Table.mem_keys_iff.2 (Table.contains_iff.2 ⟨blob, keeps.clusters id blob under⟩)

/-- Whatever a store contained when it was opened, and whatever is done with it then, it keeps all of it. -/
theorem run_keeps {before tree : Tree} {path : String} {place : Place} {tables : Tables}
    (opened : before.openStore path = (.ok (place, tables), tree)) (ops : List Operation) :
    Keeps tables (Store.run ⟨tree, path, place, tables⟩ ops).tables := by
  exact .accepts (run_accepts (s := ⟨tree, path, place, tables⟩) (.of_openStore opened) ops).1

/-- Contents with a list of hosts that does not decode, and a number for a cluster that is not there. -/
def damaged : Tables :=
  { Tables.empty with hosts := Table.empty.insert "a" [0x5B], order := Table.empty.insert 7 "b" }

/-- A store with damaged contents keeps them while clusters are added and a host is refused. -/
theorem damaged_store_keeps :
    let tree := Tree.fresh.set ["work", "r.db"] (.store damaged)
    let s : Store := ⟨(tree.openStore "r.db").2, "r.db", ["work", "r.db"], damaged⟩
    Keeps damaged (s.run
      [.call (.add (.cluster ⟨"a", "w", .epoch⟩)), .call (.add (.host "a" (.fresh "h" "u" 22))),
        .command (.line ⟨"w", "u", 22, .epoch⟩ "cluster add --id=b") (.limited none false)]).tables := by
  intro tree s
  have opened : tree.openStore "r.db" = (.ok (["work", "r.db"], damaged), s.tree) := by rfl
  exact run_keeps opened _

end ClusterRegister.Register
