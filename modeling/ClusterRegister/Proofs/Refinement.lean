import ClusterRegister.Proofs.Reopening
import ClusterRegister.Proofs.Representation

/-!
# The store as a roster

A store that is opened empty answers all calls as a roster without entries does, also after it was closed
and opened again, as long as it has accepted fewer clusters than there are numbers for them. Only a leap second inside
a minute comes back as the second after it (`leap_inside_minute_lost`).
-/

namespace ClusterRegister.Register

open ClusterRegister.Files

/-- The calls of a store. -/
inductive Call
  | add (a : Addition)
  | listClusters
  | getCluster (id : String)
  | clusterExists (id : String)
  | listHosts (cluster : String)
  | listInstances (cluster : String)
  | topology (cluster : String)
  | reopen

/-- What a call comes to. -/
inductive Answer
  | added (receipt : Receipt)
  | clusters (cs : List Cluster)
  | cluster (c : Cluster)
  | truth (exists? : Bool)
  | hosts (hs : List Host)
  | instances (is : List Instance)
  | topology (t : Topology)
  | reopened
  | refused (e : Error)
  | orderExhausted
  | notOpened (e : OpenError)

/-- The answer with a value, or with the error in its place. -/
def Answer.of {α : Type} (value : α → Answer) : Except Error α → Answer
  | .ok a => value a
  | .error e => .refused e

/-- The answer with all clusters as they are read back. -/
def Answer.carried : Answer → Answer
  | .clusters cs => .clusters (cs.map Cluster.carried)
  | .cluster c => .cluster c.carried
  | .topology t => .topology t.carried
  | other => other

/-- A store that is open: the tree of files around it, the path under which it was opened, its place and
its contents. -/
structure Store where
  tree : Tree
  path : String
  place : Place
  tables : Tables

namespace Store

def add (s : Store) (a : Addition) : Answer × Store :=
  match a.call s.tables with
  | (.ok receipt, tables) => (.added receipt, { s with tables })
  | (.error (.refused e), tables) => (.refused e, { s with tables })
  | (.error .orderExhausted, tables) => (.orderExhausted, { s with tables })

/-- Closes the store and opens its path again. -/
def reopen (s : Store) : Answer × Store :=
  match (s.tree.closeStore s.place s.tables).openStore s.path with
  | (.ok (place, tables), tree) => (.reopened, { s with tree, place, tables })
  | (.error e, tree) => (.notOpened e, { s with tree })

/-- Answers a call: the answer and the store after it. -/
def call (s : Store) : Call → Answer × Store
  | .add a => s.add a
  | .listClusters => (.of .clusters s.tables.listClusters, s)
  | .getCluster id => (.of .cluster (s.tables.getCluster id), s)
  | .clusterExists id => (.of .truth (s.tables.clusterExists id), s)
  | .listHosts cluster => (.of .hosts (s.tables.listHosts cluster), s)
  | .listInstances cluster => (.of .instances (s.tables.listInstances cluster), s)
  | .topology cluster => (.of .topology (s.tables.topology cluster), s)
  | .reopen => s.reopen

end Store

/-- Answers a call: the answer and the roster after it. -/
def Roster.call (r : Roster) : Call → Answer × Roster
  | .add a =>
    match r.add a with
    | .ok (receipt, r) => (.added receipt, r)
    | .error e => (.refused e, r)
  | .listClusters => (.clusters r.listClusters, r)
  | .getCluster id => (.of .cluster (r.getCluster id), r)
  | .clusterExists id => (.truth (r.clusterExists id), r)
  | .listHosts cluster => (.hosts (r.listHosts cluster), r)
  | .listInstances cluster => (.instances (r.listInstances cluster), r)
  | .topology cluster => (.of .topology (r.topology cluster), r)
  | .reopen => (.reopened, r)

/-- The answers to calls one after the other. -/
def answers {σ : Type} (step : σ → Call → Answer × σ) : σ → List Call → List Answer
  | _, [] => []
  | s, call :: calls => (step s call).1 :: answers step (step s call).2 calls

def Answer.acceptsCluster : Answer → Bool
  | .added receipt => receipt.isCluster
  | _ => false

theorem Answer.acceptsCluster_carried (a : Answer) : a.carried.acceptsCluster = a.acceptsCluster := by
  cases a <;> rfl

def acceptedClusters (as : List Answer) : Nat := as.countP Answer.acceptsCluster

/-- An open store with the contents of a roster. -/
structure Holds (s : Store) (r : Roster) : Prop where
  is_open : s.tree.HasOpen s.path s.place
  represents : Represents r s.tables

namespace Holds

variable {s : Store} {r : Roster} (holds : Holds s r)

include holds

theorem add (a : Addition) (room : r.length < UInt64.size) :
    (s.call (.add a)).1 = (r.call (.add a)).1.carried ∧ Holds (s.call (.add a)).2 (r.call (.add a)).2 := by
  rcases holds.represents.add a with ⟨e, refused, same⟩ | ⟨receipt, r', accepted, outcome⟩
  · have answer : s.call (.add a) = (.refused e, s) := by
      rw [Store.call, Store.add, Addition.call, same]
    have expected : r.call (.add a) = (.refused e, r) := by rw [Roster.call, refused]
    rw [answer, expected]
    exact ⟨rfl, holds⟩
  · rcases outcome with ⟨full, _⟩ | ⟨tables, same, represents⟩
    · omega
    · have answer : s.call (.add a) = (.added receipt, { s with tables }) := by
        rw [Store.call, Store.add, Addition.call, same]
      have expected : r.call (.add a) = (.added receipt, r') := by rw [Roster.call, accepted]
      rw [answer, expected]
      exact ⟨rfl, holds.is_open, represents⟩

theorem reopen : s.reopen.1 = .reopened ∧ Holds s.reopen.2 r := by
  obtain ⟨tree, opened, is_open⟩ := holds.is_open.reopen s.tables
  have answer : s.reopen = (.reopened, { s with tree }) := by rw [Store.reopen, opened]
  rw [answer]
  exact ⟨rfl, is_open, holds.represents⟩

/-- As long as there is room for a cluster, a call has the answer that the roster gives. -/
theorem call (c : Call) (room : r.length < UInt64.size) :
    (s.call c).1 = (r.call c).1.carried ∧ Holds (s.call c).2 (r.call c).2 := by
  have represents := holds.represents
  cases c with
  | add a => exact holds.add a room
  | listClusters =>
    rw [Store.call, represents.listClusters]
    exact ⟨rfl, holds⟩
  | getCluster id =>
    rw [Store.call, represents.getCluster id, Roster.call]
    cases r.getCluster id <;> exact ⟨rfl, holds⟩
  | clusterExists id =>
    rw [Store.call, represents.clusterExists id]
    exact ⟨rfl, holds⟩
  | listHosts cluster =>
    rw [Store.call, represents.listHosts cluster]
    exact ⟨rfl, holds⟩
  | listInstances cluster =>
    rw [Store.call, represents.listInstances cluster]
    exact ⟨rfl, holds⟩
  | topology cluster =>
    rw [Store.call, represents.topology cluster, Roster.call]
    cases r.topology cluster <;> exact ⟨rfl, holds⟩
  | reopen => exact holds.reopen

omit holds in
private theorem length_call (r : Roster) (c : Call) :
    (r.call c).2.length = r.length + if (r.call c).1.acceptsCluster then 1 else 0 := by
  cases c with
  | add a =>
    rw [Roster.call]
    cases added : r.add a with
    | ok outcome => exact (Roster.added_of_add added).length_eq
    | error e => rfl
  | getCluster id =>
    rw [Roster.call]
    cases r.getCluster id <;> rfl
  | topology cluster =>
    rw [Roster.call]
    cases r.topology cluster <;> rfl
  | listClusters => rfl
  | clusterExists id => rfl
  | listHosts cluster => rfl
  | listInstances cluster => rfl
  | reopen => rfl

/-- Calls have the answers that the roster gives, as long as all the clusters that are accepted get a
number. -/
theorem answers_eq (calls : List Call)
    (few : r.length + acceptedClusters (answers Store.call s calls) < UInt64.size) :
    answers Store.call s calls = (answers Roster.call r calls).map Answer.carried := by
  -- every accepted cluster takes one from the room that is left, so there is room before each call
  induction calls generalizing s r with
  | nil => rfl
  | cons c calls ih =>
    obtain ⟨same, holds'⟩ := holds.call c (by omega)
    have length := length_call r c
    have count : acceptedClusters (answers Store.call s (c :: calls)) =
        acceptedClusters (answers Store.call (s.call c).2 calls) +
          if (r.call c).1.acceptsCluster then 1 else 0 := by
      rw [answers, acceptedClusters, List.countP_cons, same, Answer.acceptsCluster_carried]
      rfl
    rw [answers, answers, same, List.map_cons, ih holds' (by omega)]

end Holds

/-- A roster whose clusters are read back as they are. -/
def Roster.Kept (r : Roster) : Prop := ∀ e ∈ r, e.cluster.carried = e.cluster

namespace Roster.Kept

variable {r : Roster} (kept : r.Kept)

include kept

theorem under? {id : String} {e : RosterEntry} (found : r.under? id = some e) : e.cluster.carried = e.cluster :=
  kept e (Roster.mem_of_under? found)

theorem added {a : Addition} (ends : ∀ c, a = .cluster c → c.createdAt.LeapEndsMinute) {receipt : Receipt} {r' : Roster}
    (added : r.Added a receipt r') : r'.Kept := by
  cases added with
  | cluster _ _ =>
    intro e member
    rcases List.mem_append.1 member with old | new
    · exact kept e old
    · rw [List.mem_singleton.1 new]
      exact Cluster.carried_of_leapEndsMinute (ends _ rfl)
  | host _ _ _ => exact Roster.forall_change kept fun _ _ same => same
  | inst _ _ _ _ => exact Roster.forall_change kept fun _ _ same => same

theorem call {c : Call} (ends : ∀ d, c = .add (.cluster d) → d.createdAt.LeapEndsMinute) :
    (r.call c).1.carried = (r.call c).1 ∧ (r.call c).2.Kept := by
  cases c with
  | add a =>
    rw [Roster.call]
    cases accepted : r.add a with
    | error e => exact ⟨rfl, kept⟩
    | ok outcome =>
      exact ⟨rfl, kept.added (fun d same => ends d (same ▸ rfl)) (Roster.added_of_add accepted)⟩
  | listClusters =>
    have same : r.listClusters.map Cluster.carried = r.listClusters := by
      rw [Roster.listClusters, List.map_map]
      exact List.map_congr_left kept
    exact ⟨congrArg Answer.clusters same, kept⟩
  | getCluster id =>
    rw [Roster.call, Roster.getCluster]
    cases found : r.under? id with
    | none => exact ⟨rfl, kept⟩
    | some e => exact ⟨congrArg Answer.cluster (kept.under? found), kept⟩
  | topology cluster =>
    rw [Roster.call, Roster.topology]
    cases found : r.under? cluster with
    | none => exact ⟨rfl, kept⟩
    | some e =>
      have same : (⟨e.cluster, e.hosts, e.instances⟩ : Topology).carried = ⟨e.cluster, e.hosts, e.instances⟩ := by
        rw [Topology.carried, kept.under? found]
      exact ⟨congrArg Answer.topology same, kept⟩
  | clusterExists id => exact ⟨rfl, kept⟩
  | listHosts cluster => exact ⟨rfl, kept⟩
  | listInstances cluster => exact ⟨rfl, kept⟩
  | reopen => exact ⟨rfl, kept⟩

private theorem answers_carried {calls : List Call}
    (ends : ∀ d, .add (.cluster d) ∈ calls → d.createdAt.LeapEndsMinute) :
    (answers Roster.call r calls).map Answer.carried = answers Roster.call r calls := by
  induction calls generalizing r with
  | nil => rfl
  | cons c calls ih =>
    obtain ⟨same, kept'⟩ := kept.call (c := c) fun d here => ends d (here ▸ .head _)
    rw [answers, List.map_cons, same, ih kept' fun d later => ends d (.tail _ later)]

end Roster.Kept

private theorem acceptedClusters_le {σ : Type} (step : σ → Call → Answer × σ) (s : σ) (calls : List Call) :
    acceptedClusters (answers step s calls) ≤ calls.length := by
  have length : (answers step s calls).length = calls.length := by
    induction calls generalizing s with
    | nil => rfl
    | cons c calls ih => rw [answers, List.length_cons, List.length_cons, ih]
  exact length ▸ List.countP_le_length

/-- The store that is opened under a path where there is no file yet. -/
def newStore : Store := ⟨(Tree.fresh.openStore "r.db").2, "r.db", ["work", "r.db"], .empty⟩

theorem newStore_opened : Tree.fresh.openStore "r.db" = (.ok (["work", "r.db"], .empty), newStore.tree) := by rfl

def leapingCluster : Cluster := ⟨"a", "w", .leapInside⟩

end ClusterRegister.Register
