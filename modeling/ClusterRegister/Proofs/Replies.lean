import ClusterRegister.Proofs.Events
import ClusterRegister.Proofs.Objections

/-!
# Replies

What commands come to on any contents: the contents that they leave, the lines that they show, and whether the
session goes on. A command commits its change before it shows anything, and it shows nothing that it does not
take from the contents that it leaves.
-/

namespace ClusterRegister.Console

open ClusterRegister.Line ClusterRegister.Register

/-- The events of showing lines. -/
def lineEvents (lines : List String) : List Event := lines.map fun line => .write (Utf8.bytes (line ++ "\n"))

theorem still_lineEvents (lines : List String) : Still (lineEvents lines) := by
  intro t member
  obtain ⟨line, _, same⟩ := List.mem_map.1 member
  cases same

theorem writtenBy_lineEvents (lines : List String) :
    writtenBy (lineEvents lines) = Utf8.bytes (linesText lines) := by
  induction lines with
  | nil => rfl
  | cons line lines ih =>
    have first : writtenBy (lineEvents (line :: lines)) =
        Utf8.bytes (line ++ "\n") ++ writtenBy (lineEvents lines) := rfl
    have text : linesText (line :: lines) = line ++ "\n" ++ linesText lines := rfl
    rw [first, ih, text, Utf8.bytes_append (line ++ "\n")]

namespace Does

variable {α : Type}

theorem sayLine (line : String) (t : Tables) : Does (sayLine line) t (lineEvents [line]) (.ok ()) := say _ t

theorem sayLines (lines : List String) (t : Tables) : Does (sayLines lines) t (lineEvents lines) (.ok ()) := by
  induction lines with
  | nil => exact pure () t
  | cons line lines ih => exact bind (sayLine line t) ih

/-- Contents that are committed again stay the same. -/
theorem commitSame {act : Shell α} {t : Tables} {es : List Event} {result : Except Halt α}
    (does : Does act t es result) :
    Does act t (.commit t :: es) result := fun sink => does sink

end Does

/-- The lines of a view, or the report that it cannot be read. -/
def viewLines {α : Type} (action : String) (lines : α → List String) : Except Error α → List String
  | .ok a => lines a
  | .error e => [reportLine action e]

def clustersView (t : Tables) : List String := viewLines "list clusters" clusterLines t.listClusters

def topologyView (t : Tables) (cluster : String) : List String :=
  viewLines "read topology" topologyLines (t.topology cluster)

private theorem report_does (action : String) (e : Error) (t : Tables) :
    Does (report action e) t (lineEvents [reportLine action e]) (.ok ()) := .sayLine _ t

private theorem showClusters_does (t : Tables) : Does showClusters t (lineEvents (clustersView t)) (.ok ()) := by
  rw [clustersView]
  cases outcome : t.listClusters with
  | ok cs => exact .look (fun _ => by simp only [outcome]) (.sayLines (clusterLines cs) t)
  | error e => exact .look (fun _ => by simp only [outcome]) (report_does "list clusters" e t)

private theorem showTopology_does (cluster : String) (t : Tables) :
    Does (showTopology cluster) t (lineEvents (topologyView t cluster)) (.ok ()) := by
  rw [topologyView]
  cases outcome : t.topology cluster with
  | ok topology => exact .look (fun _ => by simp only [outcome]) (.sayLines (topologyLines topology) t)
  | error e => exact .look (fun _ => by simp only [outcome]) (report_does "read topology" e t)

/-- What a command comes to: the contents after it, the lines that it shows, and how it ends. -/
structure Reply where
  tables : Tables
  lines : List String
  result : Except Halt Flow

/-- The events of a reply: first its change, then its lines. -/
def Reply.events (r : Reply) : List Event := .commit r.tables :: lineEvents r.lines

/-- An action that on contents `t` comes to a reply. -/
def Replies (act : Shell Flow) (t : Tables) (r : Reply) : Prop := Does act t r.events r.result

theorem contentsAfter_events (t : Tables) (r : Reply) : contentsAfter t r.events = r.tables :=
  (still_lineEvents r.lines).contentsAfter r.tables

theorem writtenBy_events (r : Reply) : writtenBy r.events = Utf8.bytes (linesText r.lines) :=
  writtenBy_lineEvents r.lines

theorem reached_events (n : Nat) (t : Tables) (r : Reply) : reached n t r.events = r.tables :=
  (still_lineEvents r.lines).reached n r.tables

/-- On a sink without limits, an action leaves the contents of its reply and writes all of its lines. -/
theorem Replies.on_unlimited {act : Shell Flow} {t : Tables} {r : Reply} (replies : Replies act t r) :
    act.on ⟨t, .unlimited⟩ =
      (r.result, ⟨r.tables, ⟨(Utf8.bytes (linesText r.lines)).toArray, none, none⟩⟩) := by
  have played := Does.on_unlimited replies
  rwa [contentsAfter_events, writtenBy_events] at played

/-- What showing lines comes to does not depend on the contents, which stay as they are. -/
theorem play_lineEvents (lines : List String) (sink : Sink) (t t' : Tables) :
    play (lineEvents lines) ⟨t', sink⟩ =
      ((play (lineEvents lines) ⟨t, sink⟩).1, ⟨t', (play (lineEvents lines) ⟨t, sink⟩).2.sink⟩) := by
  induction lines generalizing sink with
  | nil => rfl
  | cons line lines ih =>
    have events : lineEvents (line :: lines) = .write (Utf8.bytes (line ++ "\n")) :: lineEvents lines := rfl
    rw [events, play, play, Event.perform, Event.perform]
    simp only
    obtain ⟨took, after⟩ := sink.write (Utf8.bytes (line ++ "\n"))
    cases took with
    | true => exact ih after
    | false => rfl

/-- How a reply ends on a sink, and the sink after it. Any contents do, as lines leave them alone. -/
def Reply.onSink (r : Reply) (sink : Sink) : Except Halt Flow × Sink :=
  match play (lineEvents r.lines) ⟨.empty, sink⟩ with
  | (none, desk) => (r.result, desk.sink)
  | (some failure, desk) => (.error (.stream failure), desk.sink)

theorem Reply.onSink_congr {r r' : Reply} (lines : r'.lines = r.lines) (result : r'.result = r.result) (sink : Sink) :
    r'.onSink sink = r.onSink sink := by
  rw [Reply.onSink, Reply.onSink, lines, result]

/-- On any sink, an action leaves the contents of its reply. -/
theorem Replies.on_sink {act : Shell Flow} {t : Tables} {r : Reply} (replies : Replies act t r) (sink : Sink) :
    act.on ⟨t, sink⟩ = ((r.onSink sink).1, ⟨r.tables, (r.onSink sink).2⟩) := by
  have played : play r.events ⟨t, sink⟩ = play (lineEvents r.lines) ⟨r.tables, sink⟩ := rfl
  rw [replies sink, played, play_lineEvents r.lines sink .empty, Reply.onSink]
  obtain ⟨failed, desk⟩ := play (lineEvents r.lines) ⟨.empty, sink⟩
  cases failed with
  | none => rfl
  | some failure => rfl

/-- Lines are shown and the session goes on. -/
def Reply.shown (t : Tables) (lines : List String) : Reply := ⟨t, lines, .ok .goOn⟩

/-- An action that only shows lines comes to the reply that shows them. -/
theorem Replies.of_shown {act : Shell Unit} {t : Tables} {lines : List String}
    (does : Does act t (lineEvents lines) (.ok ())) :
    Replies (do act; pure .goOn) t (.shown t lines) := .commitSame (.discard does _)

/-- What an addition is called where it fails. -/
def actionName : Addition → String
  | .cluster _ => "add cluster"
  | .host _ _ => "add host"
  | .inst _ _ => "add instance"

/-- The line that confirms an addition. -/
def confirmation : Addition → String
  | .cluster c => "  [ok] cluster added: " ++ c.id
  | .host cluster h => "  [ok] host added: " ++ h.ip ++ " to cluster " ++ cluster
  | .inst cluster i =>
    "  [ok] instance added: " ++ i.addr ++ " role " ++ i.role.name ++ " to cluster " ++ cluster

/-- The view that an addition affects. -/
def affectedView (t : Tables) : Addition → List String
  | .cluster _ => clustersView t
  | .host cluster _ => topologyView t cluster
  | .inst cluster _ => topologyView t cluster

/-- The reply to an addition: what it confirms is in the contents already, and the view is the new one. -/
def additionReply (t : Tables) (a : Addition) : Reply :=
  match t.add a with
  | .ok (_, t') => ⟨t', confirmation a :: affectedView t' a, .ok .goOn⟩
  | .error (.refused e) => ⟨t, [reportLine (actionName a) e], .ok .goOn⟩
  | .error .orderExhausted => ⟨t, [], .error .orderExhausted⟩

private theorem confirmed_does (t t' : Tables) (line : String) {view : Shell Unit} {lines : List String}
    (shown : Does view t' (lineEvents lines) (.ok ())) :
    Does (do commit t'; sayLine line; view) t (.commit t' :: lineEvents (line :: lines)) (.ok ()) :=
  .bind (.commit t t') (.bind (.sayLine line t') shown)

private theorem runClusterAdd_replies (t : Tables) (c : Cluster) :
    Replies (do runClusterAdd c; pure .goOn) t (additionReply t (.cluster c)) := by
  rw [additionReply, Tables.add]
  cases outcome : t.addCluster c with
  | ok t' =>
    have done := confirmed_does t t' (confirmation (.cluster c)) (showClusters_does t')
    exact .discard (.look (fun _ => by simp only [outcome]; rfl) done) _
  | error failure =>
    cases failure with
    | refused e => exact .of_shown (.look (fun _ => by simp only [outcome]) (report_does "add cluster" e t))
    | orderExhausted =>
      exact .commitSame (.halted (.look (fun _ => by simp only [outcome]) (.stop .orderExhausted t)))

private theorem runHostAdd_replies (t : Tables) (cluster : String) (h : Host) :
    Replies (do runHostAdd cluster h; pure .goOn) t (additionReply t (.host cluster h)) := by
  rw [additionReply, Tables.add]
  rcases addHost_outcome t cluster h with ⟨e, _, outcome⟩ | ⟨_, hs, _, outcome⟩
  · rw [outcome]
    exact .of_shown (.look (fun _ => by simp only [outcome]) (report_does "add host" e t))
  · rw [outcome]
    have done (t' : Tables) := confirmed_does t t' (confirmation (.host cluster h)) (showTopology_does cluster t')
    exact .discard (.look (fun _ => by simp only [outcome]; rfl) (done _)) _

private theorem runInstanceAdd_replies (t : Tables) (cluster : String) (i : Instance) :
    Replies (do runInstanceAdd cluster i; pure .goOn) t (additionReply t (.inst cluster i)) := by
  rw [additionReply, Tables.add]
  rcases addInstance_outcome t cluster i with ⟨e, _, outcome⟩ | ⟨_, is, _, outcome⟩
  · rw [outcome]
    exact .of_shown (.look (fun _ => by simp only [outcome]) (report_does "add instance" e t))
  · rw [outcome]
    have done (t' : Tables) := confirmed_does t t' (confirmation (.inst cluster i)) (showTopology_does cluster t')
    exact .discard (.look (fun _ => by simp only [outcome]; rfl) (done _)) _

/-- What a checked command adds, where omitted flags have the values that the surroundings give. -/
def addition? (env : Surroundings) : Request → Option Addition
  | .clusterAdd id listen => some (.cluster ⟨id, listen.getD env.workerAddr, env.now⟩)
  | .hostAdd cluster ip sshUser sshPort =>
    some (.host cluster (.fresh ip (sshUser.getD env.sshUser) (sshPort.getD env.sshPort)))
  | .instanceAdd cluster host port role master =>
    some (.inst cluster (.fresh host port role (master.getD "")))
  | _ => none

/-- The lines that a command which adds nothing shows. -/
def shownLines (t : Tables) : Request → List String
  | .help => helpLines
  | .usage .general => helpLines
  | .usage .clusterShow => [usageLine showUsage]
  | .unknown => ["  unknown command, type help for usage"]
  | .clusterList => clustersView t
  | .clusterShow cluster => topologyView t cluster
  | .hostList cluster => topologyView t cluster
  | .instanceList cluster => topologyView t cluster
  | _ => []

/-- Whether the session goes on after a command that adds nothing. -/
def flowAfter : Request → Flow
  | .exit => .leave
  | _ => .goOn

def requestReply (env : Surroundings) (t : Tables) (request : Request) : Reply :=
  match addition? env request with
  | some a => additionReply t a
  | none => ⟨t, shownLines t request, .ok (flowAfter request)⟩

/-- The reply to a parsed line once its cluster is known to be there. -/
def checkedReply (env : Surroundings) (t : Tables) (p : Parsed) : Reply :=
  match Request.ofParsed p with
  | .ok request => requestReply env t request
  | .error rejection => .shown t ["  [error] " ++ rejection.message, usageLine rejection.usage]

/-- The reply to a parsed line. -/
def reply (env : Surroundings) (t : Tables) (p : Parsed) : Reply :=
  match addAction? p.shape with
  | none => checkedReply env t p
  | some action =>
    match t.clusterExists p.clusterId with
    | .ok true => checkedReply env t p
    | .ok false => .shown t [reportLine action (.clusterNotFound p.clusterId)]
    | .error e => .shown t [reportLine action e]

theorem run_replies (env : Surroundings) (t : Tables) (request : Request) :
    Replies (run env request) t (requestReply env t request) := by
  cases request with
  | exit => exact .commitSame (.pure _ t)
  | nothing => exact .commitSame (.pure _ t)
  | help => exact .of_shown (.sayLines _ t)
  | unknown => exact .of_shown (.sayLine _ t)
  | usage topic =>
    cases topic with
    | general => exact .of_shown (.sayLines _ t)
    | clusterShow => exact .of_shown (.sayLine _ t)
  | clusterList => exact .of_shown (showClusters_does t)
  | clusterShow cluster => exact .of_shown (showTopology_does cluster t)
  | hostList cluster => exact .of_shown (showTopology_does cluster t)
  | instanceList cluster => exact .of_shown (showTopology_does cluster t)
  | clusterAdd id listen => exact runClusterAdd_replies t _
  | hostAdd cluster ip sshUser sshPort => exact runHostAdd_replies t cluster _
  | instanceAdd cluster host port role master => exact runInstanceAdd_replies t cluster _

private theorem validateAndRun_replies (env : Surroundings) (t : Tables) (p : Parsed) :
    Replies (validateAndRun env p) t (checkedReply env t p) := by
  rw [validateAndRun, checkedReply]
  cases Request.ofParsed p with
  | ok request => exact run_replies env t request
  | error rejection =>
    have reason := Does.sayLine ("  [error] " ++ rejection.message) t
    have usage := Does.sayLine (usageLine rejection.usage) t
    exact .commitSame (.bind reason (.discard usage Flow.goOn))

/-- On any contents and any sink, a parsed line comes to its reply. -/
theorem execute_replies (env : Surroundings) (t : Tables) (p : Parsed) :
    Replies (execute env p) t (reply env t p) := by
  rw [execute, reply]
  cases addAction? p.shape with
  | none => exact validateAndRun_replies env t p
  | some action =>
    cases known : t.clusterExists p.clusterId with
    | error e =>
      exact .look (fun _ => by simp only [known]) (Replies.of_shown (report_does action e t))
    | ok there =>
      cases there with
      | true => exact .look (fun _ => by simp only [known]) (validateAndRun_replies env t p)
      | false =>
        have told := report_does action (.clusterNotFound p.clusterId) t
        exact .look (fun _ => by simp only [known]) (Replies.of_shown told)

end ClusterRegister.Console
