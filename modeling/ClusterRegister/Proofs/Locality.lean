import ClusterRegister.Proofs.Objections

/-!
# Locality

An addition depends on the record of its cluster and on the one entry that it writes, and a new cluster on the
order besides. On contents that are alike there, it comes to the same answer and puts the same bytes into its
entry (`Alike.add`), and every other entry stays as it was on either side (`blob?_call`).
-/

namespace ClusterRegister.Register

open ClusterRegister.Record ClusterRegister.Text

/-- The place of an entry: a table of records and a key. -/
abbrev Cell := TableName × String

namespace Tables

def blob? (t : Tables) (cell : Cell) : Option Bytes := (t.records cell.1).get? cell.2

theorem blob?_put (t : Tables) (name : TableName) (key : String) (value : Bytes) (cell : Cell) :
    (t.put name key value).blob? cell = if cell = (name, key) then some value else t.blob? cell := by
  obtain ⟨other, id⟩ := cell
  rw [blob?, records_put]
  by_cases table : other = name
  · subst table
    rw [if_pos rfl, Table.get?_insert]
    by_cases here : id = key
    · rw [if_pos here, if_pos (by rw [here])]
    · rw [if_neg here, if_neg fun same => here (Prod.mk.inj same).2]
      rfl
  · rw [if_neg table, if_neg fun same => table (Prod.mk.inj same).1]
    rfl

/-- Contents with the same entries and the same order are equal. -/
theorem ext_blob? {t t' : Tables} (entries : ∀ cell, t.blob? cell = t'.blob? cell) (order : t.order = t'.order) :
    t = t' := by
  have clusters : t.clusters = t'.clusters := Table.ext_get? fun id => entries (.clusters, id)
  have hosts : t.hosts = t'.hosts := Table.ext_get? fun id => entries (.hosts, id)
  have instances : t.instances = t'.instances := Table.ext_get? fun id => entries (.instances, id)
  cases t
  cases t'
  simp only at clusters hosts instances order
  rw [clusters, hosts, instances, order]

end Tables

namespace Addition

/-- The cluster that an addition enters or adds to. -/
def address : Addition → String
  | .cluster c => c.id
  | .host id _ => id
  | .inst id _ => id

/-- The table that an addition writes to. -/
def table : Addition → TableName
  | .cluster _ => .clusters
  | .host _ _ => .hosts
  | .inst _ _ => .instances

/-- The entry that an addition writes. -/
def cell (a : Addition) : Cell := (a.table, a.address)

/-- The entry that tells whether the cluster of an addition is there. -/
def home (a : Addition) : Cell := (.clusters, a.address)

end Addition

/-- What an accepted addition writes: the bytes of its entry, and the number of a new cluster. -/
structure Write where
  bytes : Bytes
  number : Option UInt64

/-- The contents with a write of an addition. -/
def Addition.apply (a : Addition) (w : Write) (t : Tables) : Tables :=
  match w.number with
  | none => t.put a.table a.address w.bytes
  | some n => { t.put a.table a.address w.bytes with order := t.order.insert n a.address }

theorem blob?_apply (a : Addition) (w : Write) (t : Tables) (cell : Cell) :
    (a.apply w t).blob? cell = if cell = a.cell then some w.bytes else t.blob? cell := by
  rw [Addition.cell, ← Tables.blob?_put, Addition.apply]
  cases w.number with
  | none => rfl
  | some n =>
    obtain ⟨name, id⟩ := cell
    cases name <;> rfl

theorem order_apply (a : Addition) (w : Write) (t : Tables) :
    (a.apply w t).order = match w.number with
      | none => t.order
      | some n => t.order.insert n a.address := by
  rw [Addition.apply]
  cases w.number with
  | none => exact Tables.order_put _ _ _ _
  | some n => rfl

/-- Contents that have the same where an addition looks. -/
structure Alike (a : Addition) (t t' : Tables) : Prop where
  home : t'.blob? a.home = t.blob? a.home
  cell : t'.blob? a.cell = t.blob? a.cell
  order : a.isCluster = true → t'.order = t.order

namespace Alike

variable {a : Addition} {t t' : Tables}

theorem refl (a : Addition) (t : Tables) : Alike a t t := ⟨rfl, rfl, fun _ => rfl⟩

theorem contains (alike : Alike a t t') : t'.clusters.contains a.address = t.clusters.contains a.address :=
  congrArg Option.isSome alike.home

theorem readList_congr {α : Type} [Stored α] {name : TableName} {key : String}
    (same : t'.blob? (name, key) = t.blob? (name, key)) :
    t'.readList (α := α) name key = t.readList name key := by
  have under : (t'.records name).get? key = (t.records name).get? key := same
  rw [Tables.readList, Tables.readList, under]

private theorem nextNumber_congr (same : t'.order = t.order) : t'.nextNumber = t.nextNumber := by
  rw [Tables.nextNumber, Tables.nextNumber, same]

/-- What an addition comes to on two contents: it fails on both for one reason, or it gives the same back on both
and writes the same. Only a new cluster is numbered. -/
def Agreed (a : Addition) (t t' : Tables) : Prop :=
  (∃ e, t.add a = .error e ∧ t'.add a = .error e) ∨
    ∃ receipt w, (a.isCluster = false → w.number = none) ∧ t.add a = .ok (receipt, a.apply w t) ∧
      t'.add a = .ok (receipt, a.apply w t')

theorem addCluster {c : Cluster} (alike : Alike (.cluster c) t t') : Agreed (.cluster c) t t' := by
  have known : t'.clusters.contains c.id = t.clusters.contains c.id := alike.contains
  have number : t'.nextNumber = t.nextNumber := nextNumber_congr (alike.order rfl)
  simp only [Agreed, Tables.add, Tables.addCluster, Tables.transact_enter, known, number]
  by_cases blank : isBlankText c.id = true
  · exact .inl ⟨_, by rw [if_pos blank]; rfl, by rw [if_pos blank]; rfl⟩
  rw [if_neg blank, if_neg blank]
  by_cases there : t.clusters.contains c.id = true
  · exact .inl ⟨_, by rw [if_pos there]; rfl, by rw [if_pos there]; rfl⟩
  rw [if_neg there, if_neg there]
  cases t.nextNumber with
  | none => exact .inl ⟨_, rfl, rfl⟩
  | some n =>
    have numbered : ¬(Addition.cluster c).isCluster = false := Bool.noConfusion
    exact .inr ⟨.cluster, ⟨encode c, some n⟩, fun stays => absurd stays numbered, rfl, rfl⟩

theorem addHost {cluster : String} {h : Host} (alike : Alike (.host cluster h) t t') :
    Agreed (.host cluster h) t t' := by
  have known : t'.clusters.contains cluster = t.clusters.contains cluster := alike.contains
  have list : t'.readList (α := Host) .hosts cluster = t.readList .hosts cluster := readList_congr alike.cell
  simp only [Agreed, Tables.add, Tables.addHost, Tables.transact_append, known, list]
  by_cases blank : isBlankText h.ip = true
  · exact .inl ⟨_, by rw [if_pos blank], by rw [if_pos blank]⟩
  rw [if_neg blank, if_neg blank]
  by_cases there : t.clusters.contains cluster = true
  · rw [if_pos there, if_pos there]
    cases t.readList (α := Host) .hosts cluster with
    | error e => exact .inl ⟨_, rfl, rfl⟩
    | ok hs => exact .inr ⟨_, ⟨_, none⟩, fun _ => rfl, rfl, rfl⟩
  · rw [if_neg there, if_neg there]
    exact .inl ⟨_, rfl, rfl⟩

theorem addInstance {cluster : String} {i : Instance} (alike : Alike (.inst cluster i) t t') :
    Agreed (.inst cluster i) t t' := by
  have known : t'.clusters.contains cluster = t.clusters.contains cluster := alike.contains
  have list : t'.readList (α := Instance) .instances cluster = t.readList .instances cluster :=
    readList_congr alike.cell
  simp only [Agreed, Tables.add, Tables.addInstance, Tables.transact_append, known, list]
  by_cases blank : isBlankText i.host = true
  · exact .inl ⟨_, by rw [if_pos blank], by rw [if_pos blank]⟩
  rw [if_neg blank, if_neg blank]
  by_cases zero : i.port = 0
  · exact .inl ⟨_, by rw [if_pos zero], by rw [if_pos zero]⟩
  rw [if_neg zero, if_neg zero]
  by_cases there : t.clusters.contains cluster = true
  · rw [if_pos there, if_pos there]
    cases t.readList (α := Instance) .instances cluster with
    | error e => exact .inl ⟨_, rfl, rfl⟩
    | ok is => exact .inr ⟨_, ⟨_, none⟩, fun _ => rfl, rfl, rfl⟩
  · rw [if_neg there, if_neg there]
    exact .inl ⟨_, rfl, rfl⟩

/-- An addition comes to the same on contents that are alike to it. -/
theorem add (alike : Alike a t t') : Agreed a t t' := by
  cases a with
  | cluster c => exact alike.addCluster
  | host cluster h => exact alike.addHost
  | inst cluster i => exact alike.addInstance

/-- A call gives the same answer on contents that are alike to it, and leaves the same in its entry and, if it
enters a cluster, in the order. -/
theorem call (alike : Alike a t t') :
    (a.call t').1 = (a.call t).1 ∧ (a.call t').2.blob? a.cell = (a.call t).2.blob? a.cell ∧
      (a.isCluster = true → (a.call t').2.order = (a.call t).2.order) := by
  rcases alike.add with ⟨e, failed, failed'⟩ | ⟨receipt, w, _, accepted, accepted'⟩
  · rw [Addition.call, Addition.call, failed, failed']
    exact ⟨rfl, alike.cell, alike.order⟩
  · rw [Addition.call, Addition.call, accepted, accepted']
    refine ⟨rfl, ?_, ?_⟩
    · rw [blob?_apply, blob?_apply, if_pos rfl, if_pos rfl]
    · intro enters
      rw [order_apply, order_apply, alike.order enters]

end Alike

/-- A call leaves every entry but its own as it was. -/
theorem blob?_call (a : Addition) (t : Tables) {cell : Cell} (other : cell ≠ a.cell) :
    (a.call t).2.blob? cell = t.blob? cell := by
  rcases (Alike.refl a t).add with ⟨e, failed, _⟩ | ⟨receipt, w, _, accepted, _⟩
  · rw [Addition.call, failed]
  · rw [Addition.call, accepted, blob?_apply, if_neg other]

/-- Hosts and instances are added without a change of the order. -/
theorem order_call {a : Addition} (enters_none : a.isCluster = false) (t : Tables) : (a.call t).2.order = t.order := by
  rcases (Alike.refl a t).add with ⟨e, failed, _⟩ | ⟨receipt, w, unnumbered, accepted, _⟩
  · rw [Addition.call, failed]
  · rw [Addition.call, accepted, order_apply, unnumbered enters_none]

end ClusterRegister.Register
