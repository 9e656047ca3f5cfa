import ClusterRegister.Files.Tree
import ClusterRegister.Record.Codec
import ClusterRegister.LogFilter

/-!
# Settings

The settings of the program: each has a default, and a file in JSON may give others. Settings from a
file are checked one by one before they are used.
-/

namespace ClusterRegister

open ClusterRegister.Files ClusterRegister.Json ClusterRegister.LogFilter ClusterRegister.Record
open ClusterRegister.Text

/-- What can be set: where the store is, what is logged, how interactive sessions prompt, and the values
of omitted flags. -/
structure Settings where
  storePath : String
  logLevel : String
  prompt : String
  workerAddr : String
  sshUser : String
  sshPort : UInt16
deriving DecidableEq, Repr

def Settings.standard : Settings :=
  { storePath := "data/gmha.db"
    logLevel := "warn"
    prompt := "GMHA> "
    workerAddr := "127.0.0.1:9001"
    sshUser := "root"
    sshPort := 22 }

instance : Inhabited Settings := ⟨.standard⟩

instance : Stored Settings where
  name := "Config"
  layout := [.optional "store_path" .path Settings.standard.storePath,
    .optional "log_level" .text Settings.standard.logLevel,
    .optional "prompt" .text Settings.standard.prompt,
    .optional "default_worker_addr" .text Settings.standard.workerAddr,
    .optional "default_ssh_user" .text Settings.standard.sshUser,
    .optional "default_ssh_port" .port Settings.standard.sshPort]
  toRow s := (s.storePath, s.logLevel, s.prompt, s.workerAddr, s.sshUser, s.sshPort, ())
  ofRow := fun (storePath, logLevel, prompt, workerAddr, sshUser, sshPort, ()) =>
    ⟨storePath, logLevel, prompt, workerAddr, sshUser, sshPort⟩
  ofRow_toRow _ := rfl
  distinct := by decide

/-- Why settings cannot be used. A log filter that would have to be cut inside a character is not even
refused: its check aborts. -/
inductive SettingsError
  | unreadable (path : String) (error : ReadError)
  | malformed (reason : Malformed)
  | emptyStorePath
  | badLogLevel (level : String) (fault : FilterFault)
  | aborted (cut : BadCut)
  | badWorkerAddr (addr : String)
  | blankSshUser
  | zeroSshPort
deriving DecidableEq, Repr

/-- Why settings cannot be used, in words. -/
def SettingsError.message : SettingsError → String
  | .unreadable path error => "Failed to read config " ++ path ++ ": " ++ error.message
  | .malformed reason => "Invalid config JSON: " ++ reason.message
  | .emptyStorePath => "store_path must not be empty"
  | .badLogLevel level fault => "Invalid log_level '" ++ level ++ "': " ++ fault.message
  | .aborted cut => cut.message
  | .badWorkerAddr addr => "Invalid default_worker_addr '" ++ addr ++ "': expected host:port"
  | .blankSshUser => "default_ssh_user must not be empty"
  | .zeroSshPort => "default_ssh_port must be > 0"

/-- The parts of a text before and after its last colon. -/
def splitAtLastColon : List Char → Option (List Char × List Char)
  | [] => none
  | c :: cs =>
    match splitAtLastColon cs with
    | some (host, port) => some (c :: host, port)
    | none => if c = ':' then some ([], cs) else none

/-- A host that is not empty, a colon and a port from 1 to 65535. -/
def isAddress (addr : String) : Bool :=
  match splitAtLastColon addr.toList with
  | some (host, port) => !host.isEmpty && (port? port).isSome
  | none => false

/-- Settings that can be used as they are. -/
def Settings.validate (s : Settings) : Except SettingsError Settings :=
  if s.storePath = "" then .error .emptyStorePath
  else
    match validateFilter s.logLevel with
    | .error (.badCut cut) => .error (.aborted cut)
    | .error fault => .error (.badLogLevel s.logLevel fault)
    | .ok () =>
      if ¬ isAddress s.workerAddr then .error (.badWorkerAddr s.workerAddr)
      else if isBlankText s.sshUser then .error .blankSshUser
      else if s.sshPort = 0 then .error .zeroSshPort
      else .ok s

def Settings.load (tree : Tree) (path : String) : Except SettingsError Settings :=
  match tree.readText path with
  | .error e => .error (.unreadable path e)
  | .ok bytes =>
    match decode (α := Settings) bytes with
    | .error reason => .error (.malformed reason)
    | .ok s => s.validate

/-- The file that is looked for when none is named. -/
def usualFile : String := "gmha.json"

/-- The settings of a named file, or of the usual one if it exists, or the standard ones. -/
def Settings.resolve (tree : Tree) : Option String → Except SettingsError Settings
  | some path => Settings.load tree path
  | none => if tree.pathExists usualFile then Settings.load tree usualFile else .ok .standard

end ClusterRegister
