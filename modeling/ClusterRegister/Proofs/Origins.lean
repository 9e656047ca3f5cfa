import ClusterRegister.Proofs.Consistency
import ClusterRegister.Proofs.Dialogues

/-!
# Origins

What text commands add: whatever they do and wherever their output breaks off, each addition is one that a line of
theirs asks for (`TextCommand.asked_of_mem`). What such additions keep of a roster one by one, the roster has after all
of them (`Represents.keeps`).
-/

namespace ClusterRegister.Console

open ClusterRegister.Line ClusterRegister.Register

/-- An addition that one of a number of lines asks for in its surroundings. -/
def AskedBy (env : Nat → Surroundings) (lines : List String) (a : Addition) : Prop :=
  ∃ i line, lines[i]? = some line ∧ Asked (env i) (.ofLine line) a

theorem AskedBy.first {env : Nat → Surroundings} {line : String} {a : Addition} (asked : Asked (env 0) (.ofLine line) a)
    (lines : List String) : AskedBy env (line :: lines) a := ⟨0, line, rfl, asked⟩

theorem AskedBy.cons {env : Nat → Surroundings} {lines : List String} {a : Addition}
    (asked : AskedBy (afterFirst env) lines a) (line : String) : AskedBy env (line :: lines) a := by
  obtain ⟨i, other, there, asked⟩ := asked
  exact ⟨i + 1, other, there, asked⟩

section Lines

variable {env : Surroundings}

private theorem execute_on (p : Parsed) (desk : Desk) :
    (execute env p).on desk =
      (((reply env desk.tables p).onSink desk.sink).1,
        ⟨(reply env desk.tables p).tables, ((reply env desk.tables p).onSink desk.sink).2⟩) :=
  (execute_replies env desk.tables p).on_sink desk.sink

/-- A session goes on only after lines that do not leave it. -/
theorem not_leaves_of_goOn {line : String} {desk desk' : Desk}
    (went : (executeLine env line).on desk = (.ok .goOn, desk')) : leaves line = false := by
  rw [executeLine, execute_on] at went
  have ends : (reply env desk.tables (.ofLine line)).result = .ok .goOn := by
    rcases result_onSink (reply env desk.tables (.ofLine line)) desk.sink with same | ⟨failure, stopped⟩
    · exact same.symm.trans (Prod.mk.inj went).1
    · rw [stopped] at went
      cases went
  cases left : leaves line with
  | false => rfl
  | true =>
    rcases result_reply env desk.tables (.ofLine line) with exhausted | replied
    · rw [ends] at exhausted
      cases exhausted
    · rw [ends, if_pos ((shape_exit_iff line).2 left)] at replied
      cases replied

private theorem not_leaves_of_answer {line : Bytes} {desk desk' : Desk}
    (went : (answer env line).on desk = (.ok .goOn, desk')) : leaves (lineText line) = false := by
  obtain ⟨flow, after, executed, rest⟩ := on_bind_ok went
  cases flow with
  | goOn => exact not_leaves_of_goOn executed
  | leave =>
    obtain ⟨_, _, _, left⟩ := on_bind_ok rest
    cases left

end Lines

/-- Reading lines adds what the lines ask for, up to the first one that leaves. -/
theorem asked_of_mem_loopAdditions {env : Nat → Surroundings} {prompt : String} {ps : List Bytes} {desk : Desk}
    {a : Addition} (member : a ∈ loopAdditions env prompt ps desk) : AskedBy env (upToLeave (ps.map lineText)) a := by
  induction ps generalizing env desk with
  | nil => cases member
  | cons piece ps ih =>
    obtain ⟨_, asked_desk, _, member⟩ := mem_afterwards member
    rcases List.mem_append.1 member with here | later
    · have asked := asked_of_mem_lineAdditions here
      rw [List.map_cons, upToLeave]
      split
      · exact .first asked _
      · exact .first asked _
    · obtain ⟨flow, answered_desk, answered, later⟩ := mem_afterwards later
      cases flow with
      | leave => cases later
      | goOn =>
        rw [List.map_cons, upToLeave, not_leaves_of_answer answered, if_neg Bool.false_ne_true]
        exact (ih later).cons _

theorem asked_of_mem_sessionAdditions {env : Nat → Surroundings} {prompt : String} {input : Input} {desk : Desk}
    {a : Addition} (member : a ∈ sessionAdditions env prompt input desk) :
    AskedBy env (upToLeave (input.lines.map lineText)) a := by
  obtain ⟨_, _, _, member⟩ := mem_afterwards member
  exact asked_of_mem_loopAdditions member

end ClusterRegister.Console

namespace ClusterRegister.Register

open ClusterRegister.Console ClusterRegister.Line

/-- The commands that are given as text. -/
inductive TextCommand
  | line (text : String)
  | oneShot (words : List String)
  | interactive (prompt : String) (input : Input)

/-- The command that a text comes to in its surroundings. -/
def TextCommand.under (env : Nat → Surroundings) : TextCommand → Command
  | .line text => .line (env 0) text
  | .oneShot words => .oneShot (env 0) words
  | .interactive prompt input => .interactive env prompt input

/-- The lines that a text command executes, unless its output breaks off before. -/
def TextCommand.lines : TextCommand → List String
  | .line text => [text]
  | .oneShot words => [" ".intercalate words]
  | .interactive _ input => upToLeave (input.lines.map lineText)

/-- A text command adds what its lines ask for, and nothing else. -/
theorem TextCommand.asked_of_mem {c : TextCommand} {env : Nat → Surroundings} {desk : Desk} {a : Addition}
    (member : a ∈ (c.under env).additions desk) : AskedBy env c.lines a := by
  cases c with
  | line text => exact .first (asked_of_mem_lineAdditions member) []
  | oneShot words =>
    rw [under, Command.additions] at member
    have asked : Asked (env 0) (.ofWords words) a := asked_of_mem_lineAdditions member
    rw [Parsed.ofWords] at asked
    exact .first asked []
  | interactive prompt input => exact asked_of_mem_sessionAdditions member

/-- An entry whose records are additions of a kind, with the ids that they get when they are added. -/
structure RosterEntry.From (P : Addition → Prop) (e : RosterEntry) : Prop where
  cluster : P (.cluster e.cluster)
  hosts : ∀ h ∈ e.hosts,
    ∃ given : Host, P (.host e.cluster.id given) ∧ h = { given with id := given.ip, clusterId := e.cluster.id }
  instances : ∀ i ∈ e.instances,
    ∃ given : Instance, P (.inst e.cluster.id given) ∧ i = { given with id := given.addr, clusterId := e.cluster.id }

theorem Roster.from_added {P : Addition → Prop} {r r' : Roster} {a : Addition} {receipt : Receipt}
    (all : ∀ e ∈ r, e.From P) (kind : P a) (added : r.Added a receipt r') : ∀ e ∈ r', e.From P := by
  cases added with
  | cluster _ _ =>
    intro e member
    rcases List.mem_append.1 member with old | new
    · exact all e old
    · rw [List.mem_singleton.1 new]
      exact ⟨kind, by simp, by simp⟩
  | @host cluster given added _ _ same =>
    refine Roster.forall_change all fun e here entry => ⟨entry.cluster, ?_, entry.instances⟩
    subst here
    intro h member
    rcases List.mem_append.1 member with old | new
    · exact entry.hosts h old
    · rw [List.mem_singleton.1 new]
      exact ⟨given, kind, same⟩
  | @inst cluster given added _ _ _ same =>
    refine Roster.forall_change all fun e here entry => ⟨entry.cluster, entry.hosts, ?_⟩
    subst here
    intro i member
    rcases List.mem_append.1 member with old | new
    · exact entry.instances i old
    · rw [List.mem_singleton.1 new]
      exact ⟨given, kind, same⟩

/-- What additions of a kind keep of a roster one by one, the roster has after all that its contents accept. -/
theorem Represents.keeps {P : Addition → Prop} {Inv : Roster → Prop} {r : Roster} {t t' : Tables} {as : List Addition}
    (step : ∀ {r r' a receipt}, Inv r → P a → Roster.Added r a receipt r' → Inv r') (rep : Represents r t)
    (holds : Inv r) (accepted : Accepts t as t') (all : ∀ a ∈ as, P a) : ∃ r', Represents r' t' ∧ Inv r' := by
  induction accepted generalizing r with
  | nil t => exact ⟨r, rep, holds⟩
  | cons accepted _ ih =>
    obtain ⟨r', added, rep'⟩ := rep.added accepted
    exact ih rep' (step holds (all _ (.head _)) added) fun a later => all a (.tail _ later)

end ClusterRegister.Register
