import ClusterRegister.Console.Session
import ClusterRegister.Proofs.Requests

/-!
# Histories

Whatever commands do, and wherever they stop, the contents of the store change by additions alone that it
accepts one after the other: those that the executed lines ask for (`lineAdditions`, `sessionAdditions`). A command stops
for lack of a number only where the contents have none for another cluster.
-/

namespace ClusterRegister.Register

/-- Contents that accept additions one after the other, and what becomes of them. -/
inductive Accepts : Tables → List Addition → Tables → Prop
  | nil (t : Tables) : Accepts t [] t
  | cons {t t' t'' : Tables} {a : Addition} {as : List Addition} {receipt : Receipt} :
    t.add a = .ok (receipt, t') → Accepts t' as t'' → Accepts t (a :: as) t''

theorem Accepts.append {t t' t'' : Tables} {as bs : List Addition} (first : Accepts t as t')
    (second : Accepts t' bs t'') : Accepts t (as ++ bs) t'' := by
  induction first with
  | nil _ => exact second
  | cons accepted _ ih => exact .cons accepted (ih second)

/-- Contents that have no number for a cluster. -/
def Exhausted (t : Tables) : Prop := ∃ c, t.addCluster c = .error .orderExhausted

theorem exhausted_of_add {t : Tables} {a : Addition} (failed : t.add a = .error .orderExhausted) :
    Exhausted t := by
  cases a with
  | cluster c =>
    refine ⟨c, ?_⟩
    rw [Tables.add] at failed
    cases outcome : t.addCluster c with
    | ok t' =>
      rw [outcome] at failed
      cases failed
    | error e =>
      rw [outcome] at failed
      cases failed
      rfl
  | host cluster h =>
    rw [Tables.add] at failed
    split at failed
    · cases failed
    · cases failed
  | inst cluster i =>
    rw [Tables.add] at failed
    split at failed
    · cases failed
    · cases failed

/-- An addition, if contents accept it. -/
def Tables.accepted (t : Tables) (a : Addition) : List Addition :=
  match t.add a with
  | .ok _ => [a]
  | .error _ => []

theorem Tables.eq_of_mem_accepted {t : Tables} {a b : Addition} (member : b ∈ t.accepted a) : b = a := by
  rw [accepted] at member
  split at member
  · exact List.mem_singleton.1 member
  · cases member

end ClusterRegister.Register

namespace ClusterRegister.Console

open ClusterRegister.Line ClusterRegister.Register

variable {α β : Type}

/-- What a command adds to contents. -/
def requestAdditions (env : Surroundings) (t : Tables) (request : Request) : List Addition :=
  match addition? env request with
  | some a => t.accepted a
  | none => []

/-- What a parsed line adds to contents once its cluster is known to be there. -/
def checkedAdditions (env : Surroundings) (t : Tables) (p : Parsed) : List Addition :=
  match Request.ofParsed p with
  | .ok request => requestAdditions env t request
  | .error _ => []

/-- What a parsed line adds to contents. -/
def lineAdditions (env : Surroundings) (t : Tables) (p : Parsed) : List Addition :=
  match addAction? p.shape with
  | none => checkedAdditions env t p
  | some _ =>
    match t.clusterExists p.clusterId with
    | .ok true => checkedAdditions env t p
    | _ => []

/-- What is added after an action on a desk, unless it stops. -/
def afterwards (act : Shell α) (desk : Desk) (rest : α → Desk → List Addition) : List Addition :=
  match act.on desk with
  | (.ok a, desk) => rest a desk
  | (.error _, _) => []

/-- What lines add that are prompted for and answered, up to the one that leaves or where the output fails. -/
def loopAdditions (env : Nat → Surroundings) (prompt : String) : List Bytes → Desk → List Addition
  | [], _ => []
  | line :: lines, desk =>
    afterwards (ask prompt) desk fun _ desk =>
      lineAdditions (env 0) desk.tables (.ofLine (lineText line)) ++
        afterwards (answer (env 0) line) desk fun
          | .leave, _ => []
          | .goOn, desk => loopAdditions (afterFirst env) prompt lines desk

def sessionAdditions (env : Nat → Surroundings) (prompt : String) (input : Input) (desk : Desk) : List Addition :=
  afterwards (sayLines banner) desk fun _ desk => loopAdditions env prompt input.lines desk

theorem mem_afterwards {act : Shell α} {desk : Desk} {rest : α → Desk → List Addition} {a : Addition}
    (member : a ∈ afterwards act desk rest) : ∃ b desk', act.on desk = (.ok b, desk') ∧ a ∈ rest b desk' := by
  rw [afterwards] at member
  split at member
  · next b desk' went => exact ⟨b, desk', went, member⟩
  · cases member

section Asked

variable {env : Surroundings} {t : Tables} {p : Parsed} {a : Addition}

private theorem asked_of_mem_checkedAdditions (member : a ∈ checkedAdditions env t p) : Asked env p a := by
  rw [checkedAdditions] at member
  split at member
  · next request checked =>
    rw [requestAdditions] at member
    split at member
    · next b adds =>
      rw [Tables.eq_of_mem_accepted member]
      exact asked_of_ofParsed checked adds
    · cases member
  · cases member

/-- What a line adds is what it asks for. -/
theorem asked_of_mem_lineAdditions (member : a ∈ lineAdditions env t p) : Asked env p a := by
  rw [lineAdditions] at member
  split at member
  · exact asked_of_mem_checkedAdditions member
  · split at member
    · exact asked_of_mem_checkedAdditions member
    · cases member

end Asked

/-- A reply on contents that comes from additions. -/
structure Reply.Adds (r : Reply) (t : Tables) (as : List Addition) : Prop where
  accepted : Accepts t as r.tables
  exhausted : r.result = .error .orderExhausted → Exhausted r.tables

theorem Reply.Adds.nothing {t : Tables} {lines : List String} {flow : Flow} : Reply.Adds ⟨t, lines, .ok flow⟩ t [] where
  accepted := .nil t
  exhausted failed := by cases failed

private theorem additionReply_adds (t : Tables) (a : Addition) : (additionReply t a).Adds t (t.accepted a) := by
  rw [additionReply, Tables.accepted]
  cases outcome : t.add a with
  | ok added => exact ⟨.cons outcome (.nil _), fun failed => by cases failed⟩
  | error failure =>
    cases failure with
    | refused e => exact .nothing
    | orderExhausted => exact ⟨.nil t, fun _ => exhausted_of_add outcome⟩

theorem requestReply_adds (env : Surroundings) (t : Tables) (request : Request) :
    (requestReply env t request).Adds t (requestAdditions env t request) := by
  rw [requestReply, requestAdditions]
  cases addition? env request with
  | some a => exact additionReply_adds t a
  | none => exact .nothing

private theorem checkedReply_adds (env : Surroundings) (t : Tables) (p : Parsed) :
    (checkedReply env t p).Adds t (checkedAdditions env t p) := by
  rw [checkedReply, checkedAdditions]
  cases Request.ofParsed p with
  | ok request => exact requestReply_adds env t request
  | error rejection => exact .nothing

theorem reply_adds (env : Surroundings) (t : Tables) (p : Parsed) : (reply env t p).Adds t (lineAdditions env t p) := by
  rw [reply, lineAdditions]
  cases addAction? p.shape with
  | none => exact checkedReply_adds env t p
  | some action =>
    cases t.clusterExists p.clusterId with
    | error e => exact .nothing
    | ok there =>
      cases there with
      | true => exact checkedReply_adds env t p
      | false => exact .nothing

/-- On a sink a reply ends as it does, unless the sink fails. -/
theorem result_onSink (r : Reply) (sink : Sink) :
    (r.onSink sink).1 = r.result ∨ ∃ failure, (r.onSink sink).1 = .error (.stream failure) := by
  rw [Reply.onSink]
  obtain ⟨failed, desk⟩ := play (lineEvents r.lines) ⟨.empty, sink⟩
  cases failed with
  | none => exact .inl rfl
  | some failure => exact .inr ⟨failure, rfl⟩

/-- An action that changes the contents of a desk by additions that they accept, and that stops for lack of a number only
where there is none. -/
structure Adds (act : Shell α) (desk : Desk) (as : List Addition) : Prop where
  accepted : Accepts desk.tables as (act.on desk).2.tables
  exhausted : (act.on desk).1 = .error .orderExhausted → Exhausted (act.on desk).2.tables

/-- Events that commit nothing leave the contents as they are, also where the sink fails. -/
theorem Still.tables_play {es : List Event} (still : Still es) (desk : Desk) :
    (play es desk).2.tables = desk.tables := by
  induction es generalizing desk with
  | nil => rfl
  | cons e es ih =>
    have rest : Still es := fun t member => still t (.tail _ member)
    have same : (e.perform desk).2.tables = desk.tables := by
      cases e with
      | commit t => exact absurd (.head _) (still t)
      | write bs => rfl
      | flush => rfl
    rw [play, ← same]
    obtain ⟨failed, desk'⟩ := e.perform desk
    cases failed with
    | none => exact ih rest desk'
    | some failure => rfl

namespace Adds

variable {desk : Desk} {as : List Addition}

theorem of_replies {act : Shell Flow} {r : Reply} (replies : Replies act desk.tables r)
    (adds : r.Adds desk.tables as) : Adds act desk as := by
  have outcome : act.on desk = _ := replies.on_sink desk.sink
  constructor
  case accepted =>
    rw [outcome]
    exact adds.accepted
  case exhausted =>
    rw [outcome]
    intro failed
    rcases result_onSink r desk.sink with same | ⟨failure, stopped⟩
    · exact adds.exhausted (same ▸ failed)
    · rw [stopped] at failed
      cases failed

/-- An action that leaves the contents alone and does not ask for a number. -/
theorem of_still {act : Shell α} {es : List Event} {result : Except Halt α} (does : Does act desk.tables es result)
    (still : Still es) (numbered : result ≠ .error .orderExhausted) : Adds act desk [] := by
  have outcome : act.on desk = _ := does desk.sink
  have same : (act.on desk).2.tables = desk.tables := by
    refine Eq.trans ?_ (still.tables_play desk)
    rw [outcome]
    obtain ⟨failed, desk'⟩ := play es desk
    cases failed <;> rfl
  have goes_on : (act.on desk).1 ≠ .error .orderExhausted := by
    rw [outcome]
    obtain ⟨failed, desk'⟩ := play es desk
    cases failed with
    | none => exact numbered
    | some failure => exact nofun
  exact ⟨by rw [same]; exact .nil _, fun failed => absurd failed goes_on⟩

theorem pure (a : α) (desk : Desk) : Adds (pure a) desk [] := .of_still (.pure a _) (fun _ => List.not_mem_nil) nofun

theorem bind {act : Shell α} {next : α → Shell β} {rest : α → Desk → List Addition} (first : Adds act desk as)
    (later : ∀ a desk', Adds (next a) desk' (rest a desk')) :
    Adds (act >>= next) desk (as ++ afterwards act desk rest) := by
  obtain ⟨begun, stopped⟩ := first
  have whole := on_bind act next desk
  rw [afterwards]
  cases outcome : act.on desk with
  | mk result desk' =>
    rw [outcome] at whole begun stopped
    cases result with
    | ok a =>
      have same : (act >>= next).on desk = (next a).on desk' := whole
      obtain ⟨ended, exhausted⟩ := later a desk'
      exact ⟨same ▸ begun.append ended, same ▸ exhausted⟩
    | error halt =>
      have same : (act >>= next).on desk = (.error halt, desk') := whole
      refine ⟨?_, ?_⟩
      · rw [same, List.append_nil]
        exact begun
      · rw [same]
        intro failed
        cases failed
        exact stopped rfl

/-- What is done afterwards adds nothing. -/
theorem bind_still {act : Shell α} {next : α → Shell β} (first : Adds act desk as)
    (later : ∀ a desk', Adds (next a) desk' []) : Adds (act >>= next) desk as := by
  have nothing : afterwards act desk (fun _ _ => []) = [] := by
    rw [afterwards]
    split <;> rfl
  have whole : Adds (act >>= next) desk (as ++ afterwards act desk fun _ _ => []) := first.bind later
  rwa [nothing, List.append_nil] at whole

theorem say (text : String) (desk : Desk) : Adds (say text) desk [] :=
  .of_still (.say text _) (fun _ => by simp) nofun

theorem sayLine (line : String) (desk : Desk) : Adds (sayLine line) desk [] := say _ desk

theorem sayLines (lines : List String) (desk : Desk) : Adds (sayLines lines) desk [] :=
  .of_still (.sayLines lines _) (still_lineEvents _) nofun

theorem flush (desk : Desk) : Adds flush desk [] := .of_still (.flush _) (still_flushAfter (.ok ())) nofun

theorem ask (prompt : String) (desk : Desk) : Adds (ask prompt) desk [] :=
  (say prompt desk).bind_still fun _ => flush

theorem execute (env : Surroundings) (p : Parsed) (desk : Desk) :
    Adds (execute env p) desk (lineAdditions env desk.tables p) :=
  .of_replies (execute_replies env _ p) (reply_adds env _ p)

theorem answer (env : Surroundings) (line : Bytes) (desk : Desk) :
    Adds (answer env line) desk (lineAdditions env desk.tables (.ofLine (lineText line))) := by
  refine (execute env _ desk).bind_still fun flow desk' => ?_
  cases flow with
  | leave => exact (sayLine _ desk').bind_still fun _ => pure _
  | goOn => exact pure _ desk'

theorem readLoop (env : Nat → Surroundings) (prompt : String) (ending : InputEnd) (lines : List Bytes) (desk : Desk) :
    Adds (readLoop env prompt ending lines) desk (loopAdditions env prompt lines desk) := by
  induction lines generalizing env desk with
  | nil =>
    refine (ask prompt desk).bind_still fun _ desk' => ?_
    cases ending with
    | closed => exact sayLine _ desk'
    | broken => exact .of_still (.stop (.stream .readFailed) _) (fun _ => List.not_mem_nil) nofun
  | cons line lines ih =>
    refine (ask prompt desk).bind fun _ desk' => (answer (env 0) line desk').bind fun flow desk'' => ?_
    cases flow with
    | leave => exact pure _ desk''
    | goOn => exact ih _ desk''

theorem interactive (env : Nat → Surroundings) (prompt : String) (input : Input) (desk : Desk) :
    Adds (interactive env prompt input) desk (sessionAdditions env prompt input desk) :=
  (sayLines _ desk).bind fun _ desk' => (readLoop env prompt _ _ desk').bind_still fun _ => flush

theorem oneShot (env : Surroundings) (words : List String) (desk : Desk) :
    Adds (oneShot env words) desk (lineAdditions env desk.tables (.ofWords words)) :=
  (execute env _ desk).bind_still fun _ => flush

end Adds

end ClusterRegister.Console
