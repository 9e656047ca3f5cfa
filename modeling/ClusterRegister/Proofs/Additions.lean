import ClusterRegister.Proofs.TableLaws
import ClusterRegister.Register.Operations

/-!
# Additions

What the transactions that add records come to on any contents: what they commit, or why they are given
up. The three additions are the calls that change a store.
-/

namespace ClusterRegister.Register

open ClusterRegister.Record ClusterRegister.Text

namespace Tables

/-- The greatest number that the order can give. -/
def lastNumber : UInt64 := 0xFFFFFFFFFFFFFFFF

theorem toNat_le_lastNumber (n : UInt64) : n.toNat ≤ lastNumber.toNat := Nat.le_of_lt_succ n.toNat_lt

/-- There is no next number exactly if the greatest one is taken. -/
theorem nextNumber_eq_none_iff {t : Tables} : t.nextNumber = none ↔ t.order.contains lastNumber = true := by
  rw [Table.contains_iff]
  have size : UInt64.size = lastNumber.toNat + 1 := rfl
  cases final : t.order.last? with
  | none =>
    have none_taken := Table.last?_eq_none_iff.1 final
    simp [nextNumber, final, Table.get?, none_taken, Table.lookup]
  | some last =>
    obtain ⟨n, id⟩ := last
    have member : (n, id) ∈ t.order.entries := List.mem_of_getLast? final
    have most := toNat_le_lastNumber n
    simp only [nextNumber, final]
    constructor
    -- the number of the last entry is the greatest one, so it is the one that is taken
    · intro used_up
      have top : n = lastNumber := by
        rw [← UInt64.toNat_inj]
        split at used_up
        · cases used_up
        · omega
      exact ⟨id, Table.mem_entries_iff.1 (top ▸ member)⟩
    · rintro ⟨id', taken⟩
      have top : n = lastNumber := by
        rcases Table.le_last final _ (Table.mem_entries_iff.2 taken) with same | below
        · exact (Prod.mk.inj same).1.symm
        · have less : lastNumber.toNat < n.toNat := UInt64.lt_iff_toNat_lt.1 (Std.compare_eq_lt.1 below)
          omega
      rw [top, if_neg (by omega)]

theorem nextNumber_free {t : Tables} {n : UInt64} (next : t.nextNumber = some n) : t.order.get? n = none := by
  cases final : t.order.last? with
  | none =>
    have none_taken := Table.last?_eq_none_iff.1 final
    simp [Table.get?, none_taken, Table.lookup]
  | some last =>
    obtain ⟨greatest, id⟩ := last
    simp only [nextNumber, final] at next
    split at next
    · next small =>
      cases next
      have number : (greatest + 1).toNat = greatest.toNat + 1 := by
        rw [UInt64.toNat_add]
        exact Nat.mod_eq_of_lt small
      refine Option.eq_none_iff_forall_not_mem.2 fun taken_id taken => ?_
      rcases Table.le_last final _ (Table.mem_entries_iff.2 taken) with same | below
      · have equal := congrArg UInt64.toNat (Prod.mk.inj same).1
        omega
      · have less := UInt64.lt_iff_toNat_lt.1 (Std.compare_eq_lt.1 below)
        simp only at less
        omega
    · cases next

theorem records_put (t : Tables) (name other : TableName) (key : String) (value : Bytes) :
    (t.put name key value).records other =
      if other = name then (t.records name).insert key value else t.records other := by
  cases name <;> cases other <;> rfl

theorem order_put (t : Tables) (name : TableName) (key : String) (value : Bytes) :
    (t.put name key value).order = t.order := by
  cases name <;> rfl

section Steps

variable {ε α : Type}

private theorem run_get_bind (next : Tables → Transaction ε α) (t : Tables) :
    (get >>= next).run.run t = (next t).run.run t := rfl

private theorem run_modify_bind (change : Tables → Tables) (next : PUnit → Transaction ε α) (t : Tables) :
    (modify change >>= next).run.run t = (next ()).run.run (change t) := rfl

private theorem run_throw_bind (e : ε) (next : PUnit → Transaction ε α) (t : Tables) :
    (throw e >>= next).run.run t = (.error e, t) := rfl

end Steps

theorem transact_enter (t : Tables) (c : Cluster) :
    t.transact (enter c) =
      if t.clusters.contains c.id then .error (.refused (.duplicateCluster c.id))
      else
        match t.nextNumber with
        | none => .error .orderExhausted
        | some n => .ok ((), { t.put .clusters c.id (encode c) with order := t.order.insert n c.id }) := by
  have apart : (t.put .clusters c.id (encode c)).nextNumber = t.nextNumber := rfl
  by_cases known : t.clusters.contains c.id = true
  · simp only [transact, enter, run_get_bind, known, if_true, run_throw_bind]
  · simp only [transact, enter, run_get_bind, known, Bool.false_eq_true, if_false, run_modify_bind, apart]
    cases t.nextNumber with
    | none => rfl
    | some n => rfl

theorem transact_append {α : Type} [Stored α] (t : Tables) (name : TableName) (cluster : String) (a : α) :
    t.transact (append name cluster a) =
      if t.clusters.contains cluster then
        match t.readList name cluster with
        | .ok as => .ok ((), t.put name cluster (encodeList (as ++ [a])))
        | .error e => .error e
      else .error (.clusterNotFound cluster) := by
  by_cases known : t.clusters.contains cluster = true
  · simp only [transact, append, run_get_bind, known, Bool.not_true, Bool.false_eq_true, if_false, if_true]
    cases t.readList (α := α) name cluster with
    | ok as => rfl
    | error e => rfl
  · simp only [transact, append, run_get_bind, known, Bool.not_false, if_true, if_false, Bool.false_eq_true,
      run_throw_bind]

/-- A cluster is entered under the next number, unless its id is known or there is no next number. -/
theorem enter_outcome (t : Tables) (c : Cluster) :
    (c.id ∈ t.clusters.keys ∧ t.transact (enter c) = .error (.refused (.duplicateCluster c.id))) ∨
      (c.id ∉ t.clusters.keys ∧ lastNumber ∈ t.order.keys ∧ t.transact (enter c) = .error .orderExhausted) ∨
      (c.id ∉ t.clusters.keys ∧ lastNumber ∉ t.order.keys ∧ ∃ n, t.nextNumber = some n ∧
        t.transact (enter c) =
          .ok ((), { t.put .clusters c.id (encode c) with order := t.order.insert n c.id })) := by
  rw [transact_enter]
  simp only [Table.mem_keys_iff]
  by_cases known : t.clusters.contains c.id = true
  · exact .inl ⟨known, if_pos known⟩
  · rw [if_neg known]
    cases number : t.nextNumber with
    | none => exact .inr (.inl ⟨known, nextNumber_eq_none_iff.1 number, rfl⟩)
    | some n =>
      have left_over : ¬ t.order.contains lastNumber = true := by
        rw [← nextNumber_eq_none_iff, number]
        exact Option.some_ne_none n
      exact .inr (.inr ⟨known, left_over, n, rfl, rfl⟩)

section Lists

variable {α : Type} [Stored α]

theorem readList_of_missing {t : Tables} {name : TableName} {key : String}
    (missing : (t.records name).get? key = none) : t.readList (α := α) name key = .ok [] := by
  rw [readList, missing]

theorem readList_of_found {t : Tables} {name : TableName} {key : String} {blob : Bytes}
    (found : (t.records name).get? key = some blob) :
    t.readList (α := α) name key = interpret name key (decodeList blob) := by
  rw [readList, found]

theorem decodes_of_readList {t : Tables} {name : TableName} {key : String} {blob : Bytes} {as : List α}
    (list : t.readList name key = .ok as) (found : (t.records name).get? key = some blob) :
    decodeList blob = .ok as := by
  rw [readList_of_found found] at list
  cases meaning : decodeList (α := α) blob with
  | ok as' =>
    rw [meaning] at list
    cases list
    rfl
  | error reason =>
    rw [meaning] at list
    cases list

/-- A list cannot be read exactly if its bytes do not decode. -/
theorem readList_eq_error_iff {t : Tables} {name : TableName} {key : String} {e : Error} :
    t.readList (α := α) name key = .error e ↔
      ∃ blob reason, (t.records name).get? key = some blob ∧ decodeList (α := α) blob = .error reason ∧
        e = .corrupted name key reason := by
  cases under : (t.records name).get? key with
  | none => simp [readList_of_missing under]
  | some blob =>
    rw [readList_of_found under]
    cases meaning : decodeList (α := α) blob with
    | ok as => simp [interpret, meaning]
    | error reason => simp [interpret, meaning, eq_comm]

/-- A record is put at the end of a list, unless the cluster is unknown or the list does not decode. -/
theorem append_outcome (t : Tables) (name : TableName) (cluster : String) (a : α) :
    (cluster ∉ t.clusters.keys ∧
        t.transact (append name cluster a) = .error (.clusterNotFound cluster)) ∨
      (cluster ∈ t.clusters.keys ∧ ∃ blob reason, (t.records name).get? cluster = some blob ∧
        decodeList (α := α) blob = .error reason ∧
        t.transact (append name cluster a) = .error (.corrupted name cluster reason)) ∨
      (cluster ∈ t.clusters.keys ∧ ∃ as : List α, t.readList name cluster = .ok as ∧
        t.transact (append name cluster a) = .ok ((), t.put name cluster (encodeList (as ++ [a])))) := by
  rw [transact_append]
  simp only [Table.mem_keys_iff]
  by_cases known : t.clusters.contains cluster = true
  · rw [if_pos known]
    cases list : t.readList (α := α) name cluster with
    | ok as => exact .inr (.inr ⟨known, as, rfl, rfl⟩)
    | error e =>
      obtain ⟨blob, reason, found, corrupt, rfl⟩ := readList_eq_error_iff.1 list
      exact .inr (.inl ⟨known, blob, reason, found, corrupt, rfl⟩)
  · exact .inl ⟨known, if_neg known⟩

end Lists

end Tables

/-- A record that is to be added. -/
inductive Addition
  | cluster (c : Cluster)
  | host (cluster : String) (h : Host)
  | inst (cluster : String) (i : Instance)
deriving DecidableEq

def Addition.isCluster : Addition → Bool
  | .cluster _ => true
  | _ => false

/-- What an accepted addition gives back. -/
inductive Receipt
  | cluster
  | host (h : Host)
  | inst (i : Instance)

def Receipt.isCluster : Receipt → Bool
  | .cluster => true
  | _ => false

/-- Adds a record: what is given back and the new contents. -/
def Tables.add (t : Tables) : Addition → Except AddFailure (Receipt × Tables)
  | .cluster c => (t.addCluster c).map fun t => (.cluster, t)
  | .host cluster h =>
    match t.addHost cluster h with
    | .ok (h, t) => .ok (.host h, t)
    | .error e => .error (.refused e)
  | .inst cluster i =>
    match t.addInstance cluster i with
    | .ok (i, t) => .ok (.inst i, t)
    | .error e => .error (.refused e)

/-- A call that adds a record: its answer and the contents after it, which are the old ones unless there
are new ones. -/
def Addition.call (a : Addition) (t : Tables) : Except AddFailure Receipt × Tables :=
  match t.add a with
  | .ok (receipt, t) => (.ok receipt, t)
  | .error e => (.error e, t)

end ClusterRegister.Register
