import ClusterRegister.Console.Shell
import ClusterRegister.Console.View
import ClusterRegister.Register.Operations

/-!
# Executing commands

Every change is followed by the view that it affects. A command that is refused prints one line that
says why; only a sink that fails stops a session.
-/

namespace ClusterRegister.Console

open ClusterRegister.Calendar ClusterRegister.Line ClusterRegister.Register

/-- What a command leaves open: the values of omitted flags and the time. -/
structure Surroundings where
  workerAddr : String
  sshUser : String
  sshPort : UInt16
  now : Instant
deriving DecidableEq, Repr

/-- Whether a session goes on. -/
inductive Flow
  | goOn
  | leave
deriving DecidableEq, Repr

/-- The line that reports why an action was refused. Errors of storage name the action. -/
def reportLine (action : String) (e : Error) : String :=
  match e.kind with
  | .persistence => "  [error] " ++ action ++ " failed: " ++ e.message
  | _ => "  [error] " ++ e.message

def report (action : String) (e : Error) : Shell Unit := sayLine (reportLine action e)

def showClusters : Shell Unit := do
  match (← get).tables.listClusters with
  | .ok cs => sayLines (clusterLines cs)
  | .error e => report "list clusters" e

/-- Shows a cluster with its hosts and instances. -/
def showTopology (cluster : String) : Shell Unit := do
  match (← get).tables.topology cluster with
  | .ok t => sayLines (topologyLines t)
  | .error e => report "read topology" e

def commit (tables : Tables) : Shell Unit := modify fun desk => { desk with tables }

/-- Adds a cluster and shows all of them. -/
def runClusterAdd (c : Cluster) : Shell Unit := do
  match (← get).tables.addCluster c with
  | .ok tables =>
    commit tables
    sayLine ("  [ok] cluster added: " ++ c.id)
    showClusters
  | .error (.refused e) => report "add cluster" e
  | .error .orderExhausted => throw .orderExhausted

/-- Adds a host and shows the topology of its cluster. -/
def runHostAdd (cluster : String) (h : Host) : Shell Unit := do
  match (← get).tables.addHost cluster h with
  | .ok (h, tables) =>
    commit tables
    sayLine ("  [ok] host added: " ++ h.ip ++ " to cluster " ++ cluster)
    showTopology cluster
  | .error e => report "add host" e

/-- Adds an instance and shows the topology of its cluster. -/
def runInstanceAdd (cluster : String) (i : Instance) : Shell Unit := do
  match (← get).tables.addInstance cluster i with
  | .ok (i, tables) =>
    commit tables
    sayLine ("  [ok] instance added: " ++ i.id ++ " role " ++ i.role.name ++ " to cluster " ++ cluster)
    showTopology cluster
  | .error e => report "add instance" e

def run (env : Surroundings) : Request → Shell Flow
  | .exit => pure .leave
  | .nothing => pure .goOn
  | .help => do sayLines helpLines; pure .goOn
  | .usage .general => do sayLines helpLines; pure .goOn
  | .usage .clusterShow => do sayLine (usageLine showUsage); pure .goOn
  | .unknown => do sayLine "  unknown command, type help for usage"; pure .goOn
  | .clusterAdd id listen => do runClusterAdd ⟨id, listen.getD env.workerAddr, env.now⟩; pure .goOn
  | .clusterList => do showClusters; pure .goOn
  | .clusterShow cluster => do showTopology cluster; pure .goOn
  | .hostList cluster => do showTopology cluster; pure .goOn
  | .instanceList cluster => do showTopology cluster; pure .goOn
  | .hostAdd cluster ip sshUser sshPort => do
    runHostAdd cluster (.fresh ip (sshUser.getD env.sshUser) (sshPort.getD env.sshPort))
    pure .goOn
  | .instanceAdd cluster host port role master => do
    runInstanceAdd cluster (.fresh host port role (master.getD ""))
    pure .goOn

/-- What an added host or instance is called when its cluster is looked up first. -/
def addAction? : Shape → Option String
  | .hostAdd => some "add host"
  | .instanceAdd => some "add instance"
  | _ => none

/-- Validates a parsed line and runs it, or prints why it is rejected and the usage of the command. -/
def validateAndRun (env : Surroundings) (p : Parsed) : Shell Flow :=
  match Request.ofParsed p with
  | .ok request => run env request
  | .error rejection => do
    sayLine ("  [error] " ++ rejection.message)
    sayLine (usageLine rejection.usage)
    pure .goOn

/-- Executes a parsed line. Before the flags of an added host or instance are looked at, its cluster has
to exist. -/
def execute (env : Surroundings) (p : Parsed) : Shell Flow := do
  match addAction? p.shape with
  | none => validateAndRun env p
  | some action =>
    match (← get).tables.clusterExists p.clusterId with
    | .ok true => validateAndRun env p
    | .ok false => do report action (.clusterNotFound p.clusterId); pure .goOn
    | .error e => do report action e; pure .goOn

def executeLine (env : Surroundings) (line : String) : Shell Flow := execute env (.ofLine line)

end ClusterRegister.Console
