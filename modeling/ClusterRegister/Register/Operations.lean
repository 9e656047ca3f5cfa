import ClusterRegister.Register.Error
import ClusterRegister.Register.Transaction
import ClusterRegister.Text.Blank
import ClusterRegister.Topology

/-!
# Operations on the register

Adding clusters, hosts and instances, and reading them back. Records are only ever added: a list grows
at its end, and nothing that does not decode is overwritten. What is added goes through a transaction,
and an addition that is refused has no new contents to give.
-/

namespace ClusterRegister.Register

open ClusterRegister.Record ClusterRegister.Text

/-- Why a cluster is not added: it is refused, or the numbers that order the clusters are used up. -/
inductive AddFailure
  | refused (error : Error)
  | orderExhausted
deriving DecidableEq, Repr

namespace Tables

/-- What bytes under a key mean, or that they are corrupted. -/
def interpret {α : Type} (name : TableName) (key : String) : Except Json.Malformed α → Except Error α
  | .ok a => .ok a
  | .error reason => .error (.corrupted name key reason)

def getCluster (t : Tables) (id : String) : Except Error Cluster :=
  match t.clusters.get? id with
  | some blob => interpret .clusters id (decode blob)
  | none => .error (.clusterNotFound id)

/-- Whether there is a cluster of an id. -/
def clusterExists (t : Tables) (id : String) : Except Error Bool :=
  match t.getCluster id with
  | .ok _ => .ok true
  | .error (.clusterNotFound _) => .ok false
  | .error e => .error e

/-- The list under a key of a table; a missing key has the empty list. -/
def readList {α : Type} [Stored α] (t : Tables) (name : TableName) (key : String) :
    Except Error (List α) :=
  match (t.records name).get? key with
  | some blob => interpret name key (decodeList blob)
  | none => .ok []

/-- The hosts of a cluster; none for an unknown cluster. -/
def listHosts (t : Tables) (cluster : String) : Except Error (List Host) := t.readList .hosts cluster

/-- The instances of a cluster; none for an unknown cluster. -/
def listInstances (t : Tables) (cluster : String) : Except Error (List Instance) :=
  t.readList .instances cluster

def topology (t : Tables) (cluster : String) : Except Error Topology := do
  let record ← t.getCluster cluster
  let hosts ← t.listHosts cluster
  let instances ← t.listInstances cluster
  pure ⟨record, hosts, instances⟩

/-- The records of ids, without those that have none. -/
def readClusters (t : Tables) : List String → Except Error (List Cluster)
  | [] => .ok []
  | id :: ids =>
    match t.clusters.get? id with
    | none => t.readClusters ids
    | some blob => do
      let c ← interpret .clusters id (decode blob)
      let cs ← t.readClusters ids
      pure (c :: cs)

/-- All clusters in the order in which they were added. -/
def listClusters (t : Tables) : Except Error (List Cluster) := t.readClusters t.order.values

/-- The number of the next cluster: above all that are taken, if there is one. -/
def nextNumber (t : Tables) : Option UInt64 :=
  match t.order.last? with
  | none => some 0
  | some (n, _) => if n.toNat + 1 < UInt64.size then some (n + 1) else none

/-- Enters a cluster: first its record, then its place in the order. -/
def enter (c : Cluster) : Transaction AddFailure Unit := do
  if (← get).clusters.contains c.id then throw (.refused (.duplicateCluster c.id))
  modify (·.put .clusters c.id (encode c))
  match (← get).nextNumber with
  | none => throw .orderExhausted
  | some n => modify fun t => { t with order := t.order.insert n c.id }

def addCluster (t : Tables) (c : Cluster) : Except AddFailure Tables :=
  if isBlankText c.id then .error (.refused (.invalidInput .blankClusterId))
  else do
    let (_, t) ← t.transact (enter c)
    pure t

/-- Adds a record at the end of the list of a cluster. -/
def append {α : Type} [Stored α] (name : TableName) (cluster : String) (a : α) :
    Transaction Error Unit := do
  if !(← get).clusters.contains cluster then throw (.clusterNotFound cluster)
  let as ← ((← get).readList (α := α) name cluster : Except Error (List α))
  modify (·.put name cluster (encodeList (as ++ [a])))

/-- Adds a host to a cluster; its id is its address. -/
def addHost (t : Tables) (cluster : String) (h : Host) : Except Error (Host × Tables) :=
  if isBlankText h.ip then .error (.invalidInput .blankHostIp)
  else do
    let h := { h with id := h.ip, clusterId := cluster }
    let (_, t) ← t.transact (append .hosts cluster h)
    pure (h, t)

/-- Adds an instance to a cluster; its id is its host and port. -/
def addInstance (t : Tables) (cluster : String) (i : Instance) : Except Error (Instance × Tables) :=
  if isBlankText i.host then .error (.invalidInput .blankInstanceHost)
  else if i.port = 0 then .error (.invalidInput .zeroPort)
  else do
    let i := { i with id := i.addr, clusterId := cluster }
    let (_, t) ← t.transact (append .instances cluster i)
    pure (i, t)

end Tables

end ClusterRegister.Register
