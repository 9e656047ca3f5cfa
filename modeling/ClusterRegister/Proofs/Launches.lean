import ClusterRegister.Program.Run
import ClusterRegister.Proofs.Dialogues
import ClusterRegister.Proofs.Runs

/-!
# Launches

What a start of the program comes to, from its words to its exit status. Before its store is open, a launch makes at
most directories and shows nothing. After that it is a call on the tables of the store, and they are put back; so
launches one after the other on a store are calls on a store that stays open (`launch_outcome`).
-/

namespace ClusterRegister.Files.Tree

/-- A tree with all that another one has, and nothing new but directories. -/
structure AddsDirectories (t t' : Tree) : Prop where
  working : t'.working = t.working
  held : t'.held = t.held
  kept : ∀ place e, t.entry? place = some e → t'.entry? place = some e
  new : ∀ place, t.entry? place = none → t'.entry? place = none ∨ t'.entry? place = some .directory

theorem AddsDirectories.refl (t : Tree) : AddsDirectories t t :=
  ⟨rfl, rfl, fun _ _ same => same, fun _ missing => .inl missing⟩

theorem AddsDirectories.trans {t t' t'' : Tree} (first : AddsDirectories t t') (second : AddsDirectories t' t'') :
    AddsDirectories t t'' where
  working := second.working.trans first.working
  held := second.held.trans first.held
  kept place e here := second.kept place e (first.kept place e here)
  new place missing := by
    rcases first.new place missing with still | made
    · exact second.new place still
    · exact .inr (second.kept place .directory made)

private theorem addsDirectories_makeDirectory {t t' : Tree} {path : String} (made : t.makeDirectory path = .ok t') :
    AddsDirectories t t' := by
  rw [makeDirectory] at made
  cases named : t.locate path with
  | error e =>
    rw [named] at made
    cases made
  | ok place =>
    rw [named] at made
    simp only [bind, Except.bind] at made
    cases here : t.entry? place with
    | some e =>
      rw [here] at made
      cases made
    | none =>
      rw [here] at made
      cases made
      have below : place ≠ [] := ne_root_of_at (by rw [here]; exact fun same => by cases same)
      refine ⟨rfl, rfl, fun other e there => ?_, fun other missing => ?_⟩
      · have different : other ≠ place := by
          rintro rfl
          rw [here] at there
          cases there
        rwa [at_set_ne t different]
      · by_cases same : other = place
        · rw [same, at_set_self t below]
          exact .inr rfl
        · rw [at_set_ne t same]
          exact .inl missing

private theorem addsDirectories_orThere (path : String) (t : Tree) {made : Except OsError Tree}
    (new : ∀ t', made = .ok t' → AddsDirectories t t') :
    AddsDirectories t (makeDirectories.orThere path t made).2 := by
  rw [makeDirectories.orThere.eq_def]
  cases made with
  | ok t' => exact new t' rfl
  | error e =>
    simp only
    split
    · exact .refl t
    · exact .refl t

/-- Also where some of them cannot be made, nothing but directories is. -/
theorem addsDirectories_makeDirectories (fuel : Nat) (path : String) (t : Tree) :
    AddsDirectories t (t.makeDirectories fuel path).2 := by
  induction fuel generalizing path with
  | zero => exact .refl t
  | succ fuel ih =>
    rw [makeDirectories]
    split
    · exact .refl t
    split
    · next made => exact addsDirectories_makeDirectory made
    · split
      · exact .refl t
      · next above _ =>
        have up := ih above
        split
        · next failed =>
          rw [failed] at up
          exact up
        · next made =>
          rw [made] at up
          exact up.trans (addsDirectories_orThere path _ fun t' => addsDirectories_makeDirectory)
    · exact addsDirectories_orThere path t fun t' same => by cases same

private theorem eq_of_holdStore_error {t t' : Tree} {path : String} {e : OpenError}
    (failed : t.holdStore path = (.error e, t')) : t' = t := by
  rw [holdStore] at failed
  cases named : t.filePlace path with
  | error e =>
    rw [named] at failed
    cases failed
    rfl
  | ok place =>
    rw [named] at failed
    cases found : t.storeAt place with
    | error e =>
      simp only [found] at failed
      cases failed
      rfl
    | ok tables =>
      simp only [found] at failed
      cases failed

/-- A store that does not open leaves at most directories behind. -/
theorem addsDirectories_of_openStore_error {t t' : Tree} {path : String} {e : OpenError}
    (failed : t.openStore path = (.error e, t')) : AddsDirectories t t' := by
  rw [openStore] at failed
  split at failed
  · rw [eq_of_holdStore_error failed]
    exact .refl t
  split at failed
  · rw [eq_of_holdStore_error failed]
    exact .refl t
  next above _ _ =>
  have made := addsDirectories_makeDirectories (path.length + 1) above t
  split at failed
  · next stopped =>
    rw [stopped] at made
    cases failed
    exact made
  · next complete =>
    rw [complete] at made
    rw [eq_of_holdStore_error failed]
    exact made

end ClusterRegister.Files.Tree

namespace ClusterRegister.Program

open ClusterRegister.Calendar ClusterRegister.Console ClusterRegister.Files ClusterRegister.Line
open ClusterRegister.LogFilter ClusterRegister.Register

/-- A start of the program: the time of each line that it executes, the log filter of the environment, the words after
the name of the program, and what can be read from standard input. -/
structure Launch where
  clock : Nat → Instant
  fallback : Option String
  words : List String
  input : Bytes

namespace Launch

def run (l : Launch) (tree : Tree) : Outcome × Tree := Program.run tree l.clock l.fallback l.words ⟨l.input, .closed⟩

/-- The command that a launch comes to. -/
def command (l : Launch) (s : Settings) (a : Arguments) : Command :=
  if a.command = [] then .interactive (fun n => surroundings s (l.clock n)) s.prompt ⟨l.input, .closed⟩
  else .oneShot (surroundings s (l.clock 0)) a.command

/-- What the command does to tables where all output is taken. -/
def call (l : Launch) (s : Settings) (a : Arguments) (t : Tables) : Except Halt Unit × Desk :=
  (l.command s a).act.on ⟨t, .unlimited⟩

end Launch

/-- A filter of the log that would have to be cut inside a character: that of the settings, or the one that is used
instead of it. -/
inductive FilterAborts (tree : Tree) (a : Arguments) (fallback : Option String) : Prop
  | settings {cut : BadCut} : effectiveSettings tree a = .error (.aborted cut) → FilterAborts tree a fallback
  | used {s : Settings} {cut : BadCut} : effectiveSettings tree a = .ok s → filterCut? a fallback = some cut →
    FilterAborts tree a fallback

/-- How a launch ends whose arguments are accepted. -/
structure Launch.Ends (l : Launch) (a : Arguments) (tree : Tree) : Prop where
  /-- a filter of the log aborts it: nothing is done or shown -/
  aborted : FilterAborts tree a l.fallback →
    (l.run tree).1.ending.status = 101 ∧ (l.run tree).1.stdout = [] ∧ (l.run tree).2 = tree
  /-- there are no settings: nothing is done or shown -/
  unsettled : ¬ FilterAborts tree a l.fallback → ∀ e, effectiveSettings tree a = .error e →
    (l.run tree).1.ending.status = 1 ∧ (l.run tree).1.stdout = [] ∧ (l.run tree).2 = tree
  /-- the store does not open: there may be new directories, but nothing is done or shown -/
  unopened : ¬ FilterAborts tree a l.fallback → ∀ s e tree', effectiveSettings tree a = .ok s →
    tree.openStore s.storePath = (.error e, tree') →
      (l.run tree).1.ending.status = 1 ∧ (l.run tree).1.stdout = [] ∧ tree.AddsDirectories (l.run tree).2
  /-- the store opens: the command is called, and the store keeps what it leaves -/
  served : ¬ FilterAborts tree a l.fallback → ∀ s place t tree', effectiveSettings tree a = .ok s →
    tree.openStore s.storePath = (.ok (place, t), tree') → (l.call s a t).1 ≠ .error .orderExhausted →
      (l.run tree).1.ending.status = 0 ∧ (l.call s a t).1 = .ok () ∧
      (l.run tree).1.stdout = (l.call s a t).2.sink.written.toList ∧
      ∃ again, (l.run tree).2.openStore s.storePath = (.ok (place, (l.call s a t).2.tables), again)

/-- The settings under which a launch opens its store, if it comes to that. -/
def Launch.Opens (l : Launch) (tree : Tree) (a : Arguments) (s : Settings) : Prop :=
  Arguments.ofWords l.words = .ok a ∧ prepare tree a l.fallback = .ok s

/-- Launches one after the other, all on one path: the commands of those that open it, and the tree after them. -/
inductive Launches (path : String) : Tree → List Launch → List Command → Tree → Prop
  | nil (tree : Tree) : Launches path tree [] [] tree
  | served {tree tree' : Tree} {l : Launch} {ls : List Launch} {cs : List Command} {a : Arguments} {s : Settings} :
    l.Opens tree a s → s.storePath = path → Launches path (l.run tree).2 ls cs tree' →
    Launches path tree (l :: ls) (l.command s a :: cs) tree'
  | stopped {tree tree' : Tree} {l : Launch} {ls : List Launch} {cs : List Command} :
    (∀ a s, ¬ l.Opens tree a s) → Launches path (l.run tree).2 ls cs tree' → Launches path tree (l :: ls) cs tree'

private theorem session_eq_act (l : Launch) (s : Settings) (a : Arguments) :
    session s a l.clock ⟨l.input, .closed⟩ = (l.command s a).act := by
  rw [session, Arguments.isInteractive, Launch.command]
  cases a.command with
  | nil => rfl
  | cons word words => rfl

/-- On a sink that never fails, only the numbers of the clusters can stop a call. -/
theorem result_call (l : Launch) (s : Settings) (a : Arguments) (t : Tables) :
    (l.call s a t).1 = .ok () ∨ (l.call s a t).1 = .error .orderExhausted := by
  rw [Launch.call, Launch.command]
  split
  · let env (n : Nat) := surroundings s (l.clock n)
    let input : Input := ⟨l.input, .closed⟩
    by_cases suffice : NumbersSuffice env t (upToLeave (input.lines.map lineText))
    · have session := interactive_on_unlimited s.prompt t rfl suffice
      exact .inl (congrArg Prod.fst session)
    · exact .inr (interactive_exhausts s.prompt t suffice)
  · let env := surroundings s (l.clock 0)
    have executed : Does (oneShot env a.command) t _ _ := (execute_replies env t (.ofWords a.command)).thenFlush
    have ended : ((oneShot env a.command).on ⟨t, .unlimited⟩).1 = _ := congrArg Prod.fst executed.on_unlimited
    rcases result_reply env t (.ofWords a.command) with exhausted | replied
    · rw [exhausted] at ended
      exact .inr ended
    · rw [replied] at ended
      exact .inl ended

section Outcomes

variable {l : Launch} {a : Arguments} {tree : Tree}

private theorem run_of_prepare_error (given : Arguments.ofWords l.words = .ok a) {ending : Ending}
    (stopped : prepare tree a l.fallback = .error ending) : l.run tree = (⟨ending, []⟩, tree) := by
  simp only [Launch.run, Program.run, given, stopped]

private theorem prepare_aborted (aborts : FilterAborts tree a l.fallback) :
    ∃ cut, prepare tree a l.fallback = .error (.aborted cut) := by
  cases aborts with
  | @settings cut failed => exact ⟨cut, by rw [prepare, failed]⟩
  | @used s cut settled cuts => exact ⟨cut, by rw [prepare, settled]; simp only [cuts]⟩

private theorem prepare_unsettled {e : SettingsError} (failed : effectiveSettings tree a = .error e)
    (goes_on : ¬ FilterAborts tree a l.fallback) : prepare tree a l.fallback = .error (.failed (.settings e)) := by
  rw [prepare, failed]
  cases e with
  | aborted cut => exact absurd (.settings failed) goes_on
  | _ => rfl

private theorem prepare_settled {s : Settings} (settled : effectiveSettings tree a = .ok s)
    (goes_on : ¬ FilterAborts tree a l.fallback) : prepare tree a l.fallback = .ok s := by
  rw [prepare, settled]
  cases cuts : filterCut? a l.fallback with
  | some cut => exact absurd (.used settled cuts) goes_on
  | none => rfl

private theorem run_unopened (given : Arguments.ofWords l.words = .ok a) {s : Settings}
    (prepared : prepare tree a l.fallback = .ok s) {e : OpenError} {tree' : Tree}
    (failed : tree.openStore s.storePath = (.error e, tree')) :
    l.run tree = (⟨.failed (.storeNotOpened s.storePath e), []⟩, tree') := by
  simp only [Launch.run, Program.run, given, prepared, openStore, failed]

/-- The run of a launch whose store opens is its call, with the tables put back. -/
theorem run_served (given : Arguments.ofWords l.words = .ok a) {s : Settings}
    (prepared : prepare tree a l.fallback = .ok s) {place : Place} {t : Tables} {tree' : Tree}
    (opened : tree.openStore s.storePath = (.ok (place, t), tree')) :
    l.run tree = (⟨.ofSession (l.call s a t).1, (l.call s a t).2.sink.written.toList⟩,
      tree'.closeStore place (l.call s a t).2.tables) := by
  simp only [Launch.run, Program.run, given, prepared, openStore, opened, session_eq_act, Launch.call]

private theorem launch_ends (given : Arguments.ofWords l.words = .ok a) : l.Ends a tree where
  aborted aborts := by
    obtain ⟨cut, stopped⟩ := prepare_aborted aborts
    rw [run_of_prepare_error given stopped]
    exact ⟨rfl, rfl, rfl⟩
  unsettled goes_on e failed := by
    rw [run_of_prepare_error given (prepare_unsettled failed goes_on)]
    exact ⟨rfl, rfl, rfl⟩
  unopened goes_on s e tree' settled failed := by
    rw [run_unopened given (prepare_settled settled goes_on) failed]
    exact ⟨rfl, rfl, Tree.addsDirectories_of_openStore_error failed⟩
  served goes_on s place t tree' settled opened enough := by
    rw [run_served given (prepare_settled settled goes_on) opened]
    have went := (result_call l s a t).resolve_right enough
    obtain ⟨again, reopened, _⟩ := (Tree.HasOpen.of_openStore opened).reopen (l.call s a t).2.tables
    refine ⟨?_, went, rfl, again, reopened⟩
    rw [went]
    rfl

end Outcomes

/-- Commands on an open store only change its tables. -/
theorem tables_run_commands (s : Store) (cs : List Command) :
    (s.run (cs.map fun c => .command c .unlimited)).tables =
      cs.foldl (fun t c => (c.act.on ⟨t, .unlimited⟩).2.tables) s.tables := by
  induction cs generalizing s with
  | nil => rfl
  | cons c cs ih => exact ih _

/-- A launch that does not come to open a store leaves the tree as it is. -/
theorem tree_of_stopped {l : Launch} {tree : Tree} (stopped : ∀ a s, ¬ l.Opens tree a s) : (l.run tree).2 = tree := by
  rw [Launch.run, Program.run]
  cases given : Arguments.ofWords l.words with
  | error stop => rfl
  | ok a =>
    cases prepared : prepare tree a l.fallback with
    | error ending => simp only [prepared]
    | ok s => exact absurd ⟨given, prepared⟩ (stopped a s)

/-- Launches on a path that opens are calls one after the other on what it opens with. -/
theorem launches_eq_calls {path : String} {tree tree' : Tree} {ls : List Launch} {cs : List Command}
    (launches : Launches path tree ls cs tree') {place : Place} {t : Tables} {opened : Tree}
    (opens : tree.openStore path = (.ok (place, t), opened)) :
    ∃ again, tree'.openStore path =
      (.ok (place, cs.foldl (fun t c => (c.act.on ⟨t, .unlimited⟩).2.tables) t), again) := by
  induction launches generalizing t opened with
  | nil tree => exact ⟨opened, opens⟩
  | @served tree tree' l ls cs a s settled same _ ih =>
    subst same
    have ran := run_served settled.1 settled.2 opens
    obtain ⟨again, reopened, _⟩ := (Tree.HasOpen.of_openStore opens).reopen (l.call s a t).2.tables
    rw [ran] at ih
    exact ih reopened
  | stopped nothing _ ih =>
    rw [tree_of_stopped nothing] at ih
    exact ih opens

/-- What the program comes to in any tree. A launch whose arguments are accepted fails before it does anything, or it
calls its command on the tables of its store; and launches on one path leave what their commands leave one after the
other on a store that stays open. -/
theorem launch_outcome (tree : Tree) :
    (∀ (l : Launch) (a : Arguments), Arguments.ofWords l.words = .ok a → l.Ends a tree) ∧
      ∀ path place t opened, tree.openStore path = (.ok (place, t), opened) →
        ∀ ls cs tree', Launches path tree ls cs tree' →
          ∃ again, tree'.openStore path =
            (.ok (place, (Store.run ⟨opened, path, place, t⟩ (cs.map fun c => .command c .unlimited)).tables), again) := by
  refine ⟨fun l a given => launch_ends given, ?_⟩
  intro path place t opened opens ls cs tree' launches
  rw [tables_run_commands]
  exact launches_eq_calls launches opens

/-- A launch that makes a store and adds a cluster, one whose settings are missing, and one that adds a host to the
cluster interactively. -/
theorem new_store_launches :
    let add : Launch := ⟨fun _ => .epoch, none, ["--store", "r.db", "cluster", "add", "--id=a"], []⟩
    let lost : Launch := ⟨fun _ => .epoch, none, ["--config", "none.json"], []⟩
    let talk : Launch := ⟨fun _ => .epoch, none, ["--store=r.db"], Utf8.bytes "cluster a host add --ip=h"⟩
    let given : Arguments := ⟨none, some "r.db", none, ["cluster", "add", "--id=a"]⟩
    let settings : Settings := { Settings.standard with storePath := "r.db" }
    let commands := [add.command settings given, talk.command settings ⟨none, some "r.db", none, []⟩]
    let opened := (Tree.fresh.openStore "r.db").2
    Arguments.ofWords add.words = .ok given ∧ add.Ends given Tree.fresh ∧
      ∃ tree' again, Launches "r.db" Tree.fresh [add, lost, talk] commands tree' ∧
        tree'.openStore "r.db" =
          (.ok (["work", "r.db"], (Store.run ⟨opened, "r.db", ["work", "r.db"], .empty⟩
            (commands.map fun c => .command c .unlimited)).tables), again) := by
  intro add lost talk given settings commands opened
  have words : Arguments.ofWords add.words = .ok given := by rfl
  have opens : Tree.fresh.openStore "r.db" = (.ok (["work", "r.db"], .empty), opened) := newStore_opened
  have added : add.Opens Tree.fresh given settings := ⟨words, by rfl⟩
  have ran := run_served added.1 added.2 opens
  generalize (add.call settings given .empty).1 = result at ran
  generalize (add.call settings given .empty).2 = desk at ran
  have stops : ∀ a s, ¬ lost.Opens (opened.closeStore ["work", "r.db"] desk.tables) a s := by
    rintro a s ⟨read, prepared⟩
    have same : Arguments.ofWords lost.words = .ok ⟨some "none.json", none, none, []⟩ := by rfl
    rw [same] at read
    cases read
    cases prepared
  have talks : talk.Opens (opened.closeStore ["work", "r.db"] desk.tables) ⟨none, some "r.db", none, []⟩ settings :=
    ⟨by rfl, by rfl⟩
  have series : Launches "r.db" Tree.fresh [add, lost, talk] commands (talk.run (add.run Tree.fresh).2).2 := by
    refine .served added rfl ?_
    rw [ran]
    refine .stopped stops ?_
    rw [tree_of_stopped stops]
    exact .served talks rfl (.nil _)
  obtain ⟨ends, calls⟩ := launch_outcome Tree.fresh
  obtain ⟨again, kept⟩ := calls "r.db" ["work", "r.db"] .empty opened opens _ _ _ series
  exact ⟨words, ends add given words, _, again, series, kept⟩

/-- Not every launch with settings and a store that opens is served: a blank before a letter of two bytes in the filter
of the log aborts it, and the command is not called. -/
theorem filter_aborts_launch :
    let l : Launch := ⟨fun _ => .epoch, none, ["--store", "r.db", "--log-level", " é=info", "cluster", "list"], []⟩
    let a : Arguments := ⟨none, some "r.db", some " é=info", ["cluster", "list"]⟩
    let s : Settings := { Settings.standard with storePath := "r.db" }
    Arguments.ofWords l.words = .ok a ∧ effectiveSettings Tree.fresh a = .ok s ∧
      Tree.fresh.openStore s.storePath = (.ok (["work", "r.db"], .empty), (Tree.fresh.openStore s.storePath).2) ∧
      (l.call s a .empty).2.sink.written.toList = Utf8.bytes "  [topology] no clusters\n" ∧
      (l.run Tree.fresh).1.ending.status = 101 ∧ (l.run Tree.fresh).1.stdout = [] := by
  intro l a s
  have opens : Tree.fresh.openStore "r.db" = (.ok (["work", "r.db"], .empty), (Tree.fresh.openStore "r.db").2) :=
    newStore_opened
  exact ⟨by rfl, by rfl, opens, by decide +kernel, by decide +kernel, by decide +kernel⟩

end ClusterRegister.Program
