import ClusterRegister.Console.Session
import ClusterRegister.Files.StoreFile
import ClusterRegister.Program.Arguments
import ClusterRegister.Settings

/-!
# Runs of the program

A run reads its arguments, its settings, the filter of its log and its store, in this order, and then
holds one session. What fails before the session leaves standard output empty.
-/

namespace ClusterRegister.Program

open ClusterRegister.Calendar ClusterRegister.Console ClusterRegister.Files
open ClusterRegister.LogFilter ClusterRegister.Register

/-- Why a run fails. Errors of data are no failure: sessions report them. -/
inductive Failure
  | settings (error : SettingsError)
  | stream (failure : StreamFailure)
  | storeNotOpened (path : String) (error : OpenError)
deriving DecidableEq, Repr

def Failure.code : Failure → String
  | .settings _ => "GMHA_CLI_CONFIG_ERROR"
  | .stream _ => "GMHA_CLI_IO_ERROR"
  | .storeNotOpened _ _ => "GMHA_CLI_STORE_OPEN_FAILED"

/-- Why a run fails, in words. -/
def Failure.message : Failure → String
  | .settings error => error.message
  | .stream failure => failure.message
  | .storeNotOpened path error => "Failed to open store " ++ path ++ ": " ++ error.message

/-- What a failed run prints on standard error. -/
def Failure.report (f : Failure) : String := f.code ++ ": " ++ f.message

/-- The settings of a run: those of the file, and the store that the arguments name. -/
def effectiveSettings (tree : Tree) (a : Arguments) : Except SettingsError Settings := do
  let s ← Settings.resolve tree a.config
  match a.store with
  | some path => pure { s with storePath := path }
  | none => pure s

def surroundings (s : Settings) (now : Instant) : Surroundings := ⟨s.workerAddr, s.sshUser, s.sshPort, now⟩

def openStore (tree : Tree) (s : Settings) : Except Failure (Place × Tables) × Tree :=
  match tree.openStore s.storePath with
  | (.ok opened, tree) => (.ok opened, tree)
  | (.error e, tree) => (.error (.storeNotOpened s.storePath e), tree)

/-- How a run ends. -/
inductive Ending
  /-- the arguments start no session -/
  | stopped (stop : Stop)
  | failed (failure : Failure)
  /-- a log filter would have to be cut inside a character -/
  | aborted (cut : BadCut)
  /-- the numbers that order the clusters are used up -/
  | orderExhausted
  | finished
deriving DecidableEq, Repr

def Ending.status : Ending → Nat
  | .stopped stop => stop.status
  | .failed _ => 1
  | .aborted _ => 101
  | .orderExhausted => 101
  | .finished => 0

/-- The end of a run whose session came to a result. -/
def Ending.ofSession : Except Halt Unit → Ending
  | .ok () => .finished
  | .error (.stream failure) => .failed (.stream failure)
  | .error .orderExhausted => .orderExhausted

/-- How a run ended and what it wrote to standard output. -/
structure Outcome where
  ending : Ending
  stdout : Bytes
deriving DecidableEq, Repr

/-- What a run does once its store is open. The clock gives the time of each line of an interactive session, counted from
0, and that of the command of another one at 0. -/
def session (s : Settings) (a : Arguments) (clock : Nat → Instant) (stdin : Input) : Shell Unit :=
  if a.isInteractive then interactive (fun n => surroundings s (clock n)) s.prompt stdin
  else oneShot (surroundings s (clock 0)) a.command

/-- The bad cut that the filter of the log asks for: the filter of the arguments, or else the one of the
environment. A filter that has some other fault gives way to one without any. -/
def filterCut? (a : Arguments) (fallback : Option String) : Option BadCut :=
  match a.logLevel.or fallback with
  | none => none
  | some filter =>
    match validateFilter filter with
    | .error (.badCut cut) => some cut
    | _ => none

/-- The settings under which a run opens its store, or how it ends before that. -/
def prepare (tree : Tree) (a : Arguments) (fallback : Option String) : Except Ending Settings :=
  match effectiveSettings tree a with
  | .error (.aborted cut) => .error (.aborted cut)
  | .error e => .error (.failed (.settings e))
  | .ok s =>
    match filterCut? a fallback with
    | some cut => .error (.aborted cut)
    | none => .ok s

/-- Runs the program in a file tree; `fallback` is the log filter of the environment. -/
def run (tree : Tree) (clock : Nat → Instant) (fallback : Option String) (words : List String)
    (stdin : Input) : Outcome × Tree :=
  match Arguments.ofWords words with
  | .error stop => (⟨.stopped stop, Utf8.bytes stop.output⟩, tree)
  | .ok a =>
    match prepare tree a fallback with
    | .error ending => (⟨ending, []⟩, tree)
    | .ok s =>
      match openStore tree s with
      | (.error failure, tree) => (⟨.failed failure, []⟩, tree)
      | (.ok (place, tables), tree) =>
        let (result, desk) := (session s a clock stdin).on ⟨tables, .unlimited⟩
        (⟨.ofSession result, desk.sink.written.toList⟩, tree.closeStore place desk.tables)

end ClusterRegister.Program
