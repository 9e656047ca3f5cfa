import ClusterRegister.Record.Codec

/-!
# Clusters, hosts and instances

The records of the register. A cluster is a named group of hosts and database instances; hosts and
instances get their id and the id of their cluster when they are added.
-/

namespace ClusterRegister

open ClusterRegister.Calendar ClusterRegister.Record

/-- A named group of hosts and instances. -/
structure Cluster where
  id : String
  workerAddr : String
  createdAt : Instant
deriving DecidableEq, Repr

/-- A machine of a cluster, reachable over SSH. -/
structure Host where
  id : String
  ip : String
  sshUser : String
  sshPort : UInt16
  clusterId : String
deriving DecidableEq, Repr

/-- A database server on a host. The address of its master is empty if it has none. -/
structure Instance where
  id : String
  host : String
  port : UInt16
  role : Role
  masterAddr : String
  clusterId : String
deriving DecidableEq, Repr

/-- A cluster with everything attached to it. -/
structure Topology where
  cluster : Cluster
  hosts : List Host
  instances : List Instance
deriving DecidableEq, Repr

/-- Creation time as operators see it. -/
def Cluster.createdDisplay (c : Cluster) : String := String.ofList c.createdAt.display

/-- A host that is not added yet. -/
def Host.fresh (ip sshUser : String) (sshPort : UInt16) : Host := ⟨"", ip, sshUser, sshPort, ""⟩

/-- An instance that is not added yet. -/
def Instance.fresh (host : String) (port : UInt16) (role : Role) (masterAddr : String) : Instance :=
  ⟨"", host, port, role, masterAddr, ""⟩

/-- Host and port, which is also the id of an added instance. -/
def Instance.addr (i : Instance) : String := i.host ++ ":" ++ Text.natText i.port.toNat

def Topology.isEmpty (t : Topology) : Bool := t.hosts.isEmpty && t.instances.isEmpty

instance : Stored Cluster where
  name := "Cluster"
  layout := [.required "id" .text, .required "worker_addr" .text, .required "created_at" .instant]
  toRow c := (c.id, c.workerAddr, c.createdAt, ())
  ofRow := fun (id, workerAddr, createdAt, ()) => ⟨id, workerAddr, createdAt⟩
  ofRow_toRow _ := rfl
  distinct := by decide

instance : Stored Host where
  name := "Host"
  layout := [.optional "id" .text "", .required "ip" .text, .required "ssh_user" .text,
    .required "ssh_port" .port, .optional "cluster_id" .text ""]
  toRow h := (h.id, h.ip, h.sshUser, h.sshPort, h.clusterId, ())
  ofRow := fun (id, ip, sshUser, sshPort, clusterId, ()) => ⟨id, ip, sshUser, sshPort, clusterId⟩
  ofRow_toRow _ := rfl
  distinct := by decide

instance : Stored Instance where
  name := "Instance"
  layout := [.optional "id" .text "", .required "host" .text, .required "port" .port,
    .required "role" .role, ⟨"master_addr", .text, some "", true⟩, .optional "cluster_id" .text ""]
  toRow i := (i.id, i.host, i.port, i.role, i.masterAddr, i.clusterId, ())
  ofRow := fun (id, host, port, role, masterAddr, clusterId, ()) =>
    ⟨id, host, port, role, masterAddr, clusterId⟩
  ofRow_toRow _ := rfl
  distinct := by decide

end ClusterRegister
