import ClusterRegister.Proofs.Additions

/-!
# Rosters

The register as operators think of it: the clusters in the order in which they were added, each with the
lists of its hosts and instances. A roster knows neither bytes nor keys.
-/

namespace ClusterRegister.Register

open ClusterRegister.Text

/-- A cluster with what was added to it. -/
structure RosterEntry where
  cluster : Cluster
  hosts : List Host
  instances : List Instance

/-- The entries of all clusters, in the order in which these were added. -/
abbrev Roster := List RosterEntry

def RosterEntry.addHost (e : RosterEntry) (h : Host) : RosterEntry := { e with hosts := e.hosts ++ [h] }

def RosterEntry.addInstance (e : RosterEntry) (i : Instance) : RosterEntry := { e with instances := e.instances ++ [i] }

namespace Roster

def ids (r : Roster) : List String := r.map (·.cluster.id)

def under? (r : Roster) (id : String) : Option RosterEntry := r.find? (·.cluster.id = id)

/-- The roster with a changed entry of a cluster. -/
def change (r : Roster) (id : String) (f : RosterEntry → RosterEntry) : Roster :=
  r.map fun e => if e.cluster.id = id then f e else e

/-- Adds a cluster with neither hosts nor instances. -/
def addCluster (r : Roster) (c : Cluster) : Except Error Roster :=
  if isBlankText c.id then .error (.invalidInput .blankClusterId)
  else if (r.under? c.id).isSome then .error (.duplicateCluster c.id)
  else .ok (r ++ [⟨c, [], []⟩])

/-- Adds a host to a cluster; its id is its address. -/
def addHost (r : Roster) (cluster : String) (h : Host) : Except Error (Host × Roster) :=
  if isBlankText h.ip then .error (.invalidInput .blankHostIp)
  else if (r.under? cluster).isSome then
    let added := { h with id := h.ip, clusterId := cluster }
    .ok (added, r.change cluster (·.addHost added))
  else .error (.clusterNotFound cluster)

/-- Adds an instance to a cluster; its id is its host and port. -/
def addInstance (r : Roster) (cluster : String) (i : Instance) : Except Error (Instance × Roster) :=
  if isBlankText i.host then .error (.invalidInput .blankInstanceHost)
  else if i.port = 0 then .error (.invalidInput .zeroPort)
  else if (r.under? cluster).isSome then
    let added := { i with id := i.addr, clusterId := cluster }
    .ok (added, r.change cluster (·.addInstance added))
  else .error (.clusterNotFound cluster)

def add (r : Roster) : Addition → Except Error (Receipt × Roster)
  | .cluster c => (r.addCluster c).map fun r => (.cluster, r)
  | .host cluster h => (r.addHost cluster h).map fun (h, r) => (.host h, r)
  | .inst cluster i => (r.addInstance cluster i).map fun (i, r) => (.inst i, r)

/-- All clusters in the order in which they were added. -/
def listClusters (r : Roster) : List Cluster := r.map (·.cluster)

def getCluster (r : Roster) (id : String) : Except Error Cluster :=
  match r.under? id with
  | some e => .ok e.cluster
  | none => .error (.clusterNotFound id)

/-- Whether there is a cluster of an id. -/
def clusterExists (r : Roster) (id : String) : Bool := (r.under? id).isSome

/-- The hosts of a cluster in the order in which they were added; none for an unknown cluster. -/
def listHosts (r : Roster) (cluster : String) : List Host := ((r.under? cluster).map (·.hosts)).getD []

/-- The instances of a cluster in the order in which they were added; none for an unknown cluster. -/
def listInstances (r : Roster) (cluster : String) : List Instance :=
  ((r.under? cluster).map (·.instances)).getD []

def topology (r : Roster) (cluster : String) : Except Error Topology :=
  match r.under? cluster with
  | some e => .ok ⟨e.cluster, e.hosts, e.instances⟩
  | none => .error (.clusterNotFound cluster)

theorem ids_append (r : Roster) (e : RosterEntry) : ids (r ++ [e]) = r.ids ++ [e.cluster.id] := List.map_append

theorem under?_append (r : Roster) (e : RosterEntry) (id : String) :
    under? (r ++ [e]) id = (r.under? id).or (if e.cluster.id = id then some e else none) := by
  rw [under?, List.find?_append]
  by_cases same : e.cluster.id = id
  · simp [under?, same]
  · simp [under?, same]

theorem id_of_under? {r : Roster} {id : String} {e : RosterEntry} (found : r.under? id = some e) :
    e.cluster.id = id := by
  have holds := List.find?_some found
  simpa using holds

theorem mem_of_under? {r : Roster} {id : String} {e : RosterEntry} (found : r.under? id = some e) : e ∈ r :=
  List.mem_of_find?_eq_some found

theorem under?_of_mem {r : Roster} (distinct : r.ids.Nodup) {e : RosterEntry} (member : e ∈ r) :
    r.under? e.cluster.id = some e := by
  induction r with
  | nil => cases member
  | cons first rest ih =>
    rw [ids, List.map_cons, List.nodup_cons] at distinct
    rcases List.mem_cons.1 member with rfl | later
    · exact List.find?_cons_of_pos (by simp)
    · have different : ¬ first.cluster.id = e.cluster.id := by
        intro same
        exact distinct.1 (same ▸ List.mem_map_of_mem later)
      rw [under?, List.find?_cons_of_neg (by simpa using different)]
      exact ih distinct.2 later

theorem under?_eq_none_iff {r : Roster} {id : String} : r.under? id = none ↔ id ∉ r.ids := by
  simp only [under?, List.find?_eq_none, ids, List.mem_map, not_exists, not_and, decide_eq_true_eq]

section Change

variable {f : RosterEntry → RosterEntry} (keeps : ∀ e, (f e).cluster = e.cluster)

include keeps

theorem ids_change (r : Roster) (id : String) : (r.change id f).ids = r.ids := by
  rw [ids, change, List.map_map]
  refine List.map_congr_left fun e _ => ?_
  by_cases here : e.cluster.id = id
  · simp [here, keeps]
  · simp [here]

/-- A change of an entry is seen at the id of its cluster and nowhere else. -/
theorem under?_change (r : Roster) (id other : String) :
    (r.change id f).under? other = if other = id then (r.under? other).map f else r.under? other := by
  induction r with
  | nil => simp [under?, change]
  | cons e rest ih =>
    simp only [under?, change, List.map_cons, List.find?_cons] at ih ⊢
    by_cases here : e.cluster.id = id
    · by_cases asked : other = id
      · simp [here, asked, keeps]
      · have apart : ¬ id = other := fun same => asked same.symm
        simp only [here, if_true, keeps, apart, decide_false, ih, asked, if_false]
    · by_cases asked : e.cluster.id = other
      · have apart : ¬ other = id := fun same => here (asked.trans same)
        simp [asked, apart]
      · simp only [here, if_false, asked, decide_false, ih]

end Change

theorem forall_change {Q : RosterEntry → Prop} {r : Roster} (all : ∀ e ∈ r, Q e) {cluster : String}
    {f : RosterEntry → RosterEntry} (keeps : ∀ e : RosterEntry, e.cluster.id = cluster → Q e → Q (f e)) :
    ∀ e ∈ r.change cluster f, Q e := by
  intro e' member
  obtain ⟨e, inside, rfl⟩ := List.mem_map.1 member
  by_cases here : e.cluster.id = cluster
  · rw [if_pos here]
    exact keeps e here (all e inside)
  · rw [if_neg here]
    exact all e inside

/-- How an accepted addition changes a roster, and what it gives back. -/
inductive Added (r : Roster) : Addition → Receipt → Roster → Prop
  | cluster {c : Cluster} : isBlankText c.id = false → r.under? c.id = none →
    Added r (.cluster c) .cluster (r ++ [⟨c, [], []⟩])
  | host {cluster : String} {h added : Host} : isBlankText h.ip = false → (r.under? cluster).isSome = true →
    added = { h with id := h.ip, clusterId := cluster } →
    Added r (.host cluster h) (.host added) (r.change cluster (·.addHost added))
  | inst {cluster : String} {i added : Instance} : isBlankText i.host = false → i.port ≠ 0 →
    (r.under? cluster).isSome = true → added = { i with id := i.addr, clusterId := cluster } →
    Added r (.inst cluster i) (.inst added) (r.change cluster (·.addInstance added))

theorem added_of_add {r r' : Roster} {a : Addition} {receipt : Receipt} (accepted : r.add a = .ok (receipt, r')) :
    r.Added a receipt r' := by
  cases a with
  | cluster c =>
    rw [add, addCluster] at accepted
    split at accepted
    · cases accepted
    next not_blank =>
    split at accepted
    · cases accepted
    next fresh =>
    cases accepted
    exact .cluster (by simpa using not_blank) (by simpa using fresh)
  | host cluster h =>
    rw [add, addHost] at accepted
    split at accepted
    · cases accepted
    next not_blank =>
    split at accepted
    next known =>
      cases accepted
      exact .host (by simpa using not_blank) known rfl
    · cases accepted
  | inst cluster i =>
    rw [add, addInstance] at accepted
    split at accepted
    · cases accepted
    next not_blank =>
    split at accepted
    · cases accepted
    next not_zero =>
    split at accepted
    next known =>
      cases accepted
      exact .inst (by simpa using not_blank) not_zero known rfl
    · cases accepted

namespace Added

variable {r r' : Roster} {a : Addition} {receipt : Receipt} (added : r.Added a receipt r')

include added

theorem receipt_isCluster : receipt.isCluster = a.isCluster := by
  cases added <;> rfl

/-- A roster grows by one entry with each cluster that it accepts, and by none with anything else. -/
theorem length_eq : r'.length = r.length + if receipt.isCluster then 1 else 0 := by
  cases added with
  | cluster _ _ => exact List.length_append
  | host _ _ _ => exact List.length_map _
  | inst _ _ _ _ => exact List.length_map _

end Added

end Roster

end ClusterRegister.Register
