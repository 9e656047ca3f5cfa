import ClusterRegister.Json.Fault
import ClusterRegister.Register.Tables

/-!
# Errors of the register

Why an operation on the register is refused. None of them ends a session.
-/

namespace ClusterRegister.Register

open ClusterRegister.Json

/-- How errors are classed when they are reported. -/
inductive ErrorKind
  | validation
  | notFound
  | persistence
deriving DecidableEq, Repr

def ErrorKind.text : ErrorKind → String
  | .validation => "VALIDATION"
  | .notFound => "NOT_FOUND"
  | .persistence => "PERSISTENCE"

/-- What a new record lacks. -/
inductive InvalidInput
  | blankClusterId
  | blankHostIp
  | blankInstanceHost
  | zeroPort
deriving DecidableEq, Repr

/-- What a new record lacks, in words. -/
def InvalidInput.text : InvalidInput → String
  | .blankClusterId => "cluster id must not be empty"
  | .blankHostIp => "host ip must not be empty"
  | .blankInstanceHost => "instance host must not be empty"
  | .zeroPort => "instance port must be positive"

/-- Why an operation is refused. -/
inductive Error
  | invalidInput (what : InvalidInput)
  | clusterNotFound (id : String)
  | duplicateCluster (id : String)
  | corrupted (table : TableName) (key : String) (reason : Malformed)
deriving DecidableEq, Repr

namespace Error

/-- Why an operation is refused, in words. -/
def message : Error → String
  | .invalidInput what => "invalid input: " ++ what.text
  | .clusterNotFound id => "cluster not found: " ++ id
  | .duplicateCluster id => "cluster already exists: " ++ id
  | .corrupted table key reason =>
    "corrupted record in table '" ++ table.text ++ "' at key '" ++ key ++ "': " ++ reason.message

def code : Error → String
  | .invalidInput _ => "GMHA_TOPOLOGY_INVALID_INPUT"
  | .clusterNotFound _ => "GMHA_TOPOLOGY_NOT_FOUND"
  | .duplicateCluster _ => "GMHA_TOPOLOGY_DUPLICATE"
  | .corrupted _ _ _ => "GMHA_TOPOLOGY_CORRUPTED"

def kind : Error → ErrorKind
  | .invalidInput _ => .validation
  | .clusterNotFound _ => .notFound
  | .duplicateCluster _ => .validation
  | .corrupted _ _ _ => .persistence

end Error

end ClusterRegister.Register
