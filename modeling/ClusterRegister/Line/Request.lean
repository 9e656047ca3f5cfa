import ClusterRegister.Line.Parsed
import ClusterRegister.Text.Decimal
import ClusterRegister.Role

/-!
# Requests

Parsed lines whose flags have been checked. The first flag that is missing or wrong, in the order in
which the usage lists them, rejects the line.
-/

namespace ClusterRegister.Line

open ClusterRegister.Text

/-- The adding commands, whose flags are checked. -/
inductive AddCommand
  | clusterAdd
  | hostAdd
  | instanceAdd
deriving DecidableEq, Repr

def AddCommand.usage : AddCommand → String
  | .clusterAdd => "cluster add --id=<cluster_id> [--listen=127.0.0.1:9001]"
  | .hostAdd => "cluster <cluster_id> host add --ip=<ip> [--ssh-user=root] [--ssh-port=22]"
  | .instanceAdd =>
    "cluster <cluster_id> instance add --host=<ip> --port=<3306> [--role=master|slave] [--master=<ip:port>]"

def showUsage : String := "cluster show <cluster_id>"

/-- Which help an incomplete line gets. -/
inductive UsageTopic
  | general
  | clusterShow
deriving DecidableEq, Repr

/-- A checked command. Absent options are left to the defaults of the session. -/
inductive Request
  | nothing
  | exit
  | help
  | unknown
  | usage (topic : UsageTopic)
  | clusterAdd (id : String) (listen : Option String)
  | clusterList
  | clusterShow (cluster : String)
  | hostAdd (cluster ip : String) (sshUser : Option String) (sshPort : Option UInt16)
  | hostList (cluster : String)
  | instanceAdd (cluster host : String) (port : UInt16) (role : Role) (master : Option String)
  | instanceList (cluster : String)
deriving DecidableEq, Repr

/-- What is wrong with the flags of a line. -/
inductive FlagFault
  | missing (key : String)
  | badPort (key value : String)
  | badRole (value : String)
deriving DecidableEq, Repr

/-- Why a line is rejected: a fault in the flags of a command. -/
structure Rejection where
  command : AddCommand
  fault : FlagFault
deriving DecidableEq, Repr

/-- Why a line is rejected, in words. -/
def Rejection.message (r : Rejection) : String :=
  match r.fault with
  | .missing key => "missing required flag --" ++ key
  | .badPort key value => key ++ " must be an integer between 1 and 65535, got '" ++ value ++ "'"
  | .badRole value => "role must be master or slave, got '" ++ value ++ "'"

def Rejection.usage (r : Rejection) : String := r.command.usage

/-- The value of a flag that has to be given. -/
def required (p : Parsed) (key : String) : Except FlagFault String :=
  match p.flag key with
  | some value => .ok value
  | none => .error (.missing key)

/-- The port that a flag gives; blanks around it do not matter. -/
def portFlag (key value : String) : Except FlagFault UInt16 :=
  match port? (trim value.toList) with
  | some port => .ok port
  | none => .error (.badPort key value)

/-- The role that a flag gives; a slave without the flag. -/
def roleFlag : Option String → Except FlagFault Role
  | none => .ok .slave
  | some value =>
    match Role.ofText value with
    | .ok role => .ok role
    | .error _ => .error (.badRole value)

/-- The flags of `cluster add`. -/
def checkClusterAdd (p : Parsed) : Except FlagFault Request := do
  let id ← required p "id"
  pure (.clusterAdd id (p.flag "listen"))

/-- The flags of `host add`. -/
def checkHostAdd (p : Parsed) : Except FlagFault Request := do
  let ip ← required p "ip"
  match p.flag "ssh-port" with
  | none => pure (.hostAdd p.clusterId ip (p.flag "ssh-user") none)
  | some value =>
    let port ← portFlag "ssh-port" value
    pure (.hostAdd p.clusterId ip (p.flag "ssh-user") (some port))

/-- The flags of `instance add`. -/
def checkInstanceAdd (p : Parsed) : Except FlagFault Request := do
  let host ← required p "host"
  let value ← required p "port"
  let port ← portFlag "port" value
  let role ← roleFlag (p.flag "role")
  pure (.instanceAdd p.clusterId host port role (p.flag "master"))

/-- The outcome of a check for a command. -/
def rejecting (command : AddCommand) : Except FlagFault Request → Except Rejection Request
  | .ok request => .ok request
  | .error fault => .error ⟨command, fault⟩

def Request.ofParsed (p : Parsed) : Except Rejection Request :=
  match p.shape with
  | .blank => .ok .nothing
  | .exit => .ok .exit
  | .help => .ok .help
  | .unknown => .ok .unknown
  | .clusterAlone => .ok (.usage .general)
  | .clusterNoScope => .ok (.usage .general)
  | .hostNoVerb => .ok (.usage .general)
  | .instanceNoVerb => .ok (.usage .general)
  | .unknownScope => .ok (.usage .general)
  | .clusterShowNoId => .ok (.usage .clusterShow)
  | .clusterList => .ok .clusterList
  | .clusterShow => .ok (.clusterShow p.clusterId)
  | .hostList => .ok (.hostList p.clusterId)
  | .instanceList => .ok (.instanceList p.clusterId)
  | .clusterAdd => rejecting .clusterAdd (checkClusterAdd p)
  | .hostAdd => rejecting .hostAdd (checkHostAdd p)
  | .instanceAdd => rejecting .instanceAdd (checkInstanceAdd p)

end ClusterRegister.Line
