import ClusterRegister.Line.Request
import ClusterRegister.Topology

/-!
# Views

The lines that operators see: the clusters, one topology, the help, and the usage of `cluster show`.
-/

namespace ClusterRegister.Console

open ClusterRegister.Line

def clusterLine (c : Cluster) : String :=
  "  cluster: " ++ c.id ++ "   worker: " ++ c.workerAddr ++ "   created: " ++ c.createdDisplay

def clusterLines (cs : List Cluster) : List String :=
  if cs.isEmpty then ["  [topology] no clusters"]
  else
    "  ---------- clusters ----------" :: cs.map clusterLine ++ ["  ------------------------------"]

def hostLine (h : Host) : String :=
  "    - " ++ h.ip ++ "  (ssh " ++ h.sshUser ++ "@" ++ h.ip ++ ":" ++ Text.natText h.sshPort.toNat ++ ")"

def instanceLine (i : Instance) : String :=
  match i.role with
  | .master => "    master: " ++ i.addr
  | .slave =>
    "    slave:  " ++ i.addr ++ "  -> master " ++ (if i.masterAddr = "" then "(unset)" else i.masterAddr)

/-- Lines under a heading, without the heading if there are none. -/
def headed (heading : String) (lines : List String) : List String :=
  if lines.isEmpty then [] else heading :: lines

def topologyLines (t : Topology) : List String :=
  ("  ---------- cluster " ++ t.cluster.id ++ " topology ----------") ::
    headed "  hosts:" (t.hosts.map hostLine) ++
    headed "  instances:" (t.instances.map instanceLine) ++
    (if t.isEmpty then ["  (no hosts or instances)"] else []) ++
    ["  ------------------------------------------"]

/-- The line that shows how a command is written. -/
def usageLine (usage : String) : String := "  usage: " ++ usage

def helpRows : List (String × String) :=
  [(AddCommand.clusterAdd.usage, "add a cluster, then list clusters"),
    ("cluster list", "list all clusters"),
    (showUsage, "show a cluster's hosts and instances"),
    (AddCommand.hostAdd.usage, "add a host, then show the topology"),
    ("cluster <cluster_id> host list", "show the topology"),
    (AddCommand.instanceAdd.usage, "add an instance, then show the topology"),
    ("cluster <cluster_id> instance list", "show the topology"),
    ("help", "show this help"),
    ("exit | quit", "leave the session")]

def helpLines : List String :=
  "" :: "  commands (clusters, hosts, instances):" ::
    helpRows.flatMap (fun (usage, what) => ["    " ++ usage, "        " ++ what]) ++ [""]

/-- The text of lines, each ended by a line feed. -/
def linesText (lines : List String) : String := lines.foldr (fun line rest => line ++ "\n" ++ rest) ""

end ClusterRegister.Console
