import ClusterRegister.Proofs.Histories
import ClusterRegister.Proofs.Refinement

/-!
# Runs

What can be done with an open store: calls, and commands of all kinds with any sink for their output. Over a
run of such operations the contents change by the additions alone that its operations accept (`run_accepts`).
-/

namespace ClusterRegister.Register

open ClusterRegister.Console ClusterRegister.Files ClusterRegister.Line

/-- The commands that operators and their programs give. -/
inductive Command
  | line (env : Surroundings) (text : String)
  | parsed (env : Surroundings) (p : Parsed)
  | request (env : Surroundings) (r : Request)
  | oneShot (env : Surroundings) (words : List String)
  | interactive (env : Nat → Surroundings) (prompt : String) (input : Input)

def Command.act : Command → Shell Unit
  | .line env text => do let _ ← executeLine env text
  | .parsed env p => do let _ ← execute env p
  | .request env r => do let _ ← Console.run env r
  | .oneShot env words => Console.oneShot env words
  | .interactive env prompt input => Console.interactive env prompt input

/-- What a command adds on a desk. -/
def Command.additions (c : Command) (desk : Desk) : List Addition :=
  match c with
  | .line env text => lineAdditions env desk.tables (.ofLine text)
  | .parsed env p => lineAdditions env desk.tables p
  | .request env r => requestAdditions env desk.tables r
  | .oneShot env words => lineAdditions env desk.tables (.ofWords words)
  | .interactive env prompt input => sessionAdditions env prompt input desk

/-- An operation on a store: a call, or a command that writes to a sink. -/
inductive Operation
  | call (c : Call)
  | command (c : Command) (sink : Sink)

/-- How an operation ends. -/
inductive Outcome
  | answer (a : Answer)
  | command (result : Except Halt Unit)

/-- Whether an operation ended for lack of a number for a cluster. -/
def Outcome.Overflows : Outcome → Prop
  | .answer a => a = .orderExhausted
  | .command result => result = .error .orderExhausted

namespace Store

/-- Performs an operation: how it ends and the store after it. -/
def perform (s : Store) : Operation → Outcome × Store
  | .call c => (.answer (s.call c).1, (s.call c).2)
  | .command c sink =>
    let (result, desk) := c.act.on ⟨s.tables, sink⟩
    (.command result, { s with tables := desk.tables })

/-- What an operation adds: the record of a call that is accepted, or those of a command. -/
def accepts (s : Store) : Operation → List Addition
  | .call (.add a) => s.tables.accepted a
  | .call _ => []
  | .command c sink => c.additions ⟨s.tables, sink⟩

/-- The store after operations one after the other. -/
def run (s : Store) : List Operation → Store
  | [] => s
  | op :: ops => run (s.perform op).2 ops

/-- What operations add one after the other. -/
def additions (s : Store) : List Operation → List Addition
  | [] => []
  | op :: ops => s.accepts op ++ additions (s.perform op).2 ops

end Store

/-- What an operation does to an open store: it stays open, its contents accept what the operation adds, and if the
operation ends for lack of a number, there is none. -/
structure Follows (s : Store) (outcome : Outcome) (as : List Addition) (s' : Store) : Prop where
  is_open : s'.tree.HasOpen s'.path s'.place
  accepted : Accepts s.tables as s'.tables
  exhausted : outcome.Overflows → Exhausted s'.tables

theorem Follows.reading {s : Store} (is_open : s.tree.HasOpen s.path s.place) {α : Type} (value : α → Answer)
    (values : ∀ a, value a ≠ .orderExhausted) (result : Except Error α) :
    Follows s (.answer (.of value result)) [] s where
  is_open := is_open
  accepted := .nil _
  exhausted overflows := by
    cases result with
    | ok a => exact absurd overflows (values a)
    | error e => cases overflows

theorem Follows.adding {s : Store} (is_open : s.tree.HasOpen s.path s.place) (a : Addition) :
    Follows s (.answer (s.add a).1) (s.tables.accepted a) (s.add a).2 := by
  rw [Tables.accepted]
  cases outcome : s.tables.add a with
  | ok added =>
    obtain ⟨receipt, tables⟩ := added
    have answer : s.add a = (.added receipt, { s with tables }) := by
      rw [Store.add, Addition.call, outcome]
    rw [answer]
    exact ⟨is_open, .cons outcome (.nil _), fun overflows => by cases overflows⟩
  | error e =>
    cases e with
    | refused e =>
      have answer : s.add a = (.refused e, s) := by rw [Store.add, Addition.call, outcome]
      rw [answer]
      exact ⟨is_open, .nil _, fun overflows => by cases overflows⟩
    | orderExhausted =>
      have answer : s.add a = (.orderExhausted, s) := by rw [Store.add, Addition.call, outcome]
      rw [answer]
      exact ⟨is_open, .nil _, fun _ => exhausted_of_add outcome⟩

theorem Follows.reopening {s : Store} (is_open : s.tree.HasOpen s.path s.place) :
    Follows s (.answer s.reopen.1) [] s.reopen.2 := by
  obtain ⟨tree, opened, open_again⟩ := is_open.reopen s.tables
  have answer : s.reopen = (.reopened, { s with tree }) := by rw [Store.reopen, opened]
  rw [answer]
  exact ⟨open_again, .nil _, fun overflows => by cases overflows⟩

theorem Command.adds (c : Command) (desk : Desk) : Adds c.act desk (c.additions desk) := by
  cases c with
  | line env text => exact (Adds.execute env (.ofLine text) desk).bind_still fun _ => .pure _
  | parsed env p => exact (Adds.execute env p desk).bind_still fun _ => .pure _
  | request env r =>
    have ran : Adds (Console.run env r) desk _ := .of_replies (run_replies env _ r) (requestReply_adds env _ r)
    exact ran.bind_still fun _ => .pure _
  | oneShot env words => exact .oneShot env words desk
  | interactive env prompt input => exact .interactive env prompt input desk

/-- Every operation on an open store follows what it adds. -/
theorem perform_follows {s : Store} (is_open : s.tree.HasOpen s.path s.place) (op : Operation) :
    Follows s (s.perform op).1 (s.accepts op) (s.perform op).2 := by
  cases op with
  | command c sink =>
    obtain ⟨accepted, exhausted⟩ := c.adds ⟨s.tables, sink⟩
    exact ⟨is_open, accepted, exhausted⟩
  | call c =>
    cases c with
    | add a => exact .adding is_open a
    | reopen => exact .reopening is_open
    | listClusters => exact .reading is_open .clusters (fun _ same => by cases same) _
    | getCluster id => exact .reading is_open .cluster (fun _ same => by cases same) _
    | clusterExists id => exact .reading is_open .truth (fun _ same => by cases same) _
    | listHosts cluster => exact .reading is_open .hosts (fun _ same => by cases same) _
    | listInstances cluster => exact .reading is_open .instances (fun _ same => by cases same) _
    | topology cluster => exact .reading is_open .topology (fun _ same => by cases same) _

/-- A run of operations on an open store follows what they add. -/
theorem run_accepts {s : Store} (is_open : s.tree.HasOpen s.path s.place) (ops : List Operation) :
    Accepts s.tables (s.additions ops) (s.run ops).tables ∧
      (s.run ops).tree.HasOpen (s.run ops).path (s.run ops).place := by
  induction ops generalizing s with
  | nil => exact ⟨.nil _, is_open⟩
  | cons op ops ih =>
    have first := perform_follows is_open op
    obtain ⟨rest, open_at_end⟩ := ih first.is_open
    exact ⟨first.accepted.append rest, open_at_end⟩

theorem additions_append (s : Store) (ops more : List Operation) :
    s.additions (ops ++ more) = s.additions ops ++ (s.run ops).additions more := by
  induction ops generalizing s with
  | nil => rfl
  | cons op ops ih =>
    rw [List.cons_append, Store.additions, Store.additions, ih, List.append_assoc]
    rfl

end ClusterRegister.Register
