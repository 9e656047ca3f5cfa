import ClusterRegister.Table
import ClusterRegister.Text.Utf8

/-!
# The tables of the register

What the store keeps: the records as bytes under the ids of their clusters, and the ids of the clusters
in the order in which they were added.
-/

namespace ClusterRegister.Register

/-- The tables that hold records. -/
inductive TableName
  | clusters
  | hosts
  | instances
deriving DecidableEq, Repr

/-- The name of a table as messages have it. -/
def TableName.text : TableName → String
  | .clusters => "clusters"
  | .hosts => "hosts"
  | .instances => "instances"

/-- The contents of a store. Under the id of a cluster stand its record, the list of its hosts and the
list of its instances, each as bytes; `order` numbers the clusters. -/
structure Tables where
  clusters : Table String Bytes
  hosts : Table String Bytes
  instances : Table String Bytes
  order : Table UInt64 String

namespace Tables

def empty : Tables := ⟨.empty, .empty, .empty, .empty⟩

instance : Inhabited Tables := ⟨empty⟩

def records (t : Tables) : TableName → Table String Bytes
  | .clusters => t.clusters
  | .hosts => t.hosts
  | .instances => t.instances

def withRecords (t : Tables) (name : TableName) (table : Table String Bytes) : Tables :=
  match name with
  | .clusters => { t with clusters := table }
  | .hosts => { t with hosts := table }
  | .instances => { t with instances := table }

/-- The contents with bytes under a key of a table, instead of what was there. -/
def put (t : Tables) (name : TableName) (key : String) (value : Bytes) : Tables :=
  t.withRecords name ((t.records name).insert key value)

end Tables

end ClusterRegister.Register
