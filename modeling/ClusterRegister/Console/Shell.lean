import ClusterRegister.Console.Sink
import ClusterRegister.Register.Tables

/-!
# Shells

Commands act on a desk, which has the tables of the register and a sink for output. They stop early
when the sink fails or when the numbers that order the clusters are used up; the desk is then as it was
at that point.
-/

namespace ClusterRegister.Console

open ClusterRegister.Register

/-- What commands act on. -/
structure Desk where
  tables : Tables
  sink : Sink

/-- Why a command stops early. -/
inductive Halt
  | stream (failure : StreamFailure)
  | orderExhausted
deriving DecidableEq, Repr

/-- An action on a desk that may stop early. -/
abbrev Shell := ExceptT Halt (StateM Desk)

/-- What an action comes to on a desk, and the desk after it. -/
def Shell.on {α : Type} (act : Shell α) (desk : Desk) : Except Halt α × Desk := act.run.run desk

def say (text : String) : Shell Unit := do
  let desk ← get
  let (took, sink) := desk.sink.write (Utf8.bytes text)
  set { desk with sink }
  if took then pure () else throw (.stream .pipeClosed)

def sayLine (line : String) : Shell Unit := say (line ++ "\n")

def sayLines : List String → Shell Unit
  | [] => pure ()
  | line :: lines => do
    sayLine line
    sayLines lines

def flush : Shell Unit := do
  let desk ← get
  let (flushed, sink) := desk.sink.flush
  set { desk with sink }
  if flushed then pure () else throw (.stream .flushFailed)

end ClusterRegister.Console
