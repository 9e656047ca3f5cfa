import ClusterRegister.Proofs.Locality
import ClusterRegister.Proofs.Refinement
import ClusterRegister.Proofs.Requests

/-!
# Isolation

What is kept for one cluster makes no difference to the others, whether it is there, missing or damaged: on two
stores that agree but for the entries of a cluster, all that is done with other clusters is answered alike and shows
the same, and each store keeps what it has for that cluster (`visits_isolated`).
-/

namespace ClusterRegister.Register

open ClusterRegister.Console ClusterRegister.Line ClusterRegister.Record

/-- Something done with a store: a call, or a parsed line or checked command that is executed and writes to a
sink. -/
inductive Visit
  | call (c : Call)
  | parsed (env : Surroundings) (p : Parsed) (sink : Sink)
  | request (env : Surroundings) (r : Request) (sink : Sink)

/-- The one cluster that a call is about. -/
def Call.address? : Call → Option String
  | .add a => some a.address
  | .getCluster id => some id
  | .clusterExists id => some id
  | .listHosts id => some id
  | .listInstances id => some id
  | .topology id => some id
  | .listClusters => none
  | .reopen => none

/-- The cluster that a line shows or adds to. -/
def lineAddress? (p : Parsed) : Option String :=
  match p.shape with
  | .clusterShow => some p.clusterId
  | .hostAdd => some p.clusterId
  | .hostList => some p.clusterId
  | .instanceAdd => some p.clusterId
  | .instanceList => some p.clusterId
  | _ => none

/-- The cluster that a command shows or adds to. -/
def requestAddress? : Request → Option String
  | .clusterShow id => some id
  | .hostAdd id _ _ _ => some id
  | .hostList id => some id
  | .instanceAdd id _ _ _ _ => some id
  | .instanceList id => some id
  | _ => none

def Visit.address? : Visit → Option String
  | .call c => c.address?
  | .parsed _ p _ => lineAddress? p
  | .request _ r _ => requestAddress? r

/-- What is seen of a visit: the answer to a call, or how a command ends and the sink that it leaves. -/
inductive Sight
  | answer (a : Answer)
  | shown (result : Except Halt Flow) (sink : Sink)

namespace Store

/-- Executes a command: what is seen of it and the store after it. -/
def execute (s : Store) (act : Shell Flow) (sink : Sink) : Sight × Store :=
  let (result, desk) := act.on ⟨s.tables, sink⟩
  (.shown result desk.sink, { s with tables := desk.tables })

def visit (s : Store) : Visit → Sight × Store
  | .call c => (.answer (s.call c).1, (s.call c).2)
  | .parsed env p sink => s.execute (Console.execute env p) sink
  | .request env r sink => s.execute (Console.run env r) sink

/-- What is seen of visits one after the other. -/
def sights : Store → List Visit → List Sight
  | _, [] => []
  | s, v :: vs => (s.visit v).1 :: sights (s.visit v).2 vs

/-- The store after visits one after the other. -/
def visits (s : Store) (vs : List Visit) : Store := vs.foldl (fun s v => (s.visit v).2) s

end Store

/-- Contents that agree but for what the tables of records have under one key. -/
structure AgreeBeyond (c : String) (t t' : Tables) : Prop where
  entries : ∀ cell : Cell, cell.2 ≠ c → t'.blob? cell = t.blob? cell
  order : t'.order = t.order

/-- What contents have under a key is the same before and after. -/
def KeptUnder (c : String) (t after : Tables) : Prop := ∀ name : TableName, after.blob? (name, c) = t.blob? (name, c)

/-- What came of the same thing done on two contents: the same was seen, the contents agree as before, and both keep
what they have under the key. -/
structure Isolated {σ : Type} (c : String) (t t' : Tables) (one other : σ × Tables) : Prop where
  seen : other.1 = one.1
  agree : AgreeBeyond c one.2 other.2
  kept : KeptUnder c t one.2
  kept' : KeptUnder c t' other.2

/-- What is seen of a reply, and the contents that it leaves. -/
def replyParts (r : Reply) : (List String × Except Halt Flow) × Tables := ((r.lines, r.result), r.tables)

/-- The same can be seen of what was seen. -/
theorem Isolated.map {σ τ : Type} {c : String} {t t' : Tables} {one other : σ × Tables}
    (isolated : Isolated c t t' one other) (f : σ → τ) : Isolated c t t' (f one.1, one.2) (f other.1, other.2) :=
  ⟨congrArg f isolated.seen, isolated.agree, isolated.kept, isolated.kept'⟩

theorem AgreeBeyond.refl (c : String) (t : Tables) : AgreeBeyond c t t := ⟨fun _ _ => rfl, rfl⟩

/-- Whatever is put under the key, contents agree beyond it as before. -/
theorem AgreeBeyond.put {c : String} {t t' : Tables} (agree : AgreeBeyond c t t') (name name' : TableName)
    (value value' : Bytes) : AgreeBeyond c (t.put name c value) (t'.put name' c value') where
  entries cell other := by
    have apart (name : TableName) : cell ≠ (name, c) := fun same => other (congrArg Prod.snd same)
    rw [Tables.blob?_put, Tables.blob?_put, if_neg (apart name), if_neg (apart name'), agree.entries cell other]
  order := by rw [Tables.order_put, Tables.order_put, agree.order]

namespace AgreeBeyond

variable {c id : String} {t t' : Tables} (agree : AgreeBeyond c t t')

include agree

/-- Where nothing is written, only what is seen counts. -/
theorem unwritten {σ : Type} {x x' : σ} (seen : x' = x) : Isolated c t t' (x, t) (x', t') :=
  ⟨seen, agree, fun _ => rfl, fun _ => rfl⟩

section Reading

variable (apart : id ≠ c)

include apart

theorem under (name : TableName) : (t'.records name).get? id = (t.records name).get? id :=
  agree.entries (name, id) apart

theorem getCluster : t'.getCluster id = t.getCluster id := by
  have record : t'.clusters.get? id = t.clusters.get? id := agree.under apart .clusters
  rw [Tables.getCluster, Tables.getCluster, record]

theorem clusterExists : t'.clusterExists id = t.clusterExists id := by
  rw [Tables.clusterExists, Tables.clusterExists, agree.getCluster apart]

theorem listHosts : t'.listHosts id = t.listHosts id := Alike.readList_congr (agree.entries (.hosts, id) apart)

theorem listInstances : t'.listInstances id = t.listInstances id :=
  Alike.readList_congr (agree.entries (.instances, id) apart)

theorem topology : t'.topology id = t.topology id := by
  rw [Tables.topology, Tables.topology, agree.getCluster apart, agree.listHosts apart, agree.listInstances apart]

theorem topologyView : Console.topologyView t' id = Console.topologyView t id := by
  rw [Console.topologyView, Console.topologyView, agree.topology apart]

end Reading

section Adding

variable {a : Addition} (apart : a.address ≠ c)

include apart

theorem alike : Alike a t t' where
  home := agree.entries a.home apart
  cell := agree.entries a.cell apart
  order _ := agree.order

omit apart in
theorem apply (w : Write) : AgreeBeyond c (a.apply w t) (a.apply w t') where
  entries cell other := by
    rw [blob?_apply, blob?_apply, agree.entries cell other]
  order := by
    rw [order_apply, order_apply, agree.order]

omit agree in
private theorem kept_apply (w : Write) (t : Tables) : KeptUnder c t (a.apply w t) := by
  intro name
  have other : (name, c) ≠ a.cell := fun same => apart (Prod.mk.inj same).2.symm
  rw [blob?_apply, if_neg other]

/-- Adding to another cluster, or entering it, comes to the same. -/
theorem call : Isolated c t t' (a.call t) (a.call t') := by
  rcases (agree.alike apart).add with ⟨e, failed, failed'⟩ | ⟨receipt, w, _, accepted, accepted'⟩
  · rw [Addition.call, Addition.call, failed, failed']
    exact agree.unwritten rfl
  · rw [Addition.call, Addition.call, accepted, accepted']
    exact ⟨rfl, agree.apply w, kept_apply apart w t, kept_apply apart w t'⟩

end Adding

theorem additionReply {a : Addition} (apart : a.address ≠ c) (adds_to_it : a.isCluster = false) :
    Isolated c t t' (replyParts (Console.additionReply t a)) (replyParts (Console.additionReply t' a)) := by
  rcases (agree.alike apart).add with ⟨e, failed, failed'⟩ | ⟨receipt, w, _, accepted, accepted'⟩
  · rw [Console.additionReply, Console.additionReply, failed, failed']
    cases e with
    | refused e => exact agree.unwritten rfl
    | orderExhausted => exact agree.unwritten rfl
  · have after := agree.apply (a := a) w
    have view : affectedView (a.apply w t') a = affectedView (a.apply w t) a := by
      cases a with
      | cluster d => cases adds_to_it
      | host id h => exact after.topologyView apart
      | inst id i => exact after.topologyView apart
    rw [Console.additionReply, Console.additionReply, accepted, accepted']
    refine ⟨?_, after, kept_apply apart w t, kept_apply apart w t'⟩
    simp only [replyParts, view]

theorem requestReply {env : Surroundings} {r : Request} (address : requestAddress? r = some id) (apart : id ≠ c) :
    Isolated c t t' (replyParts (Console.requestReply env t r)) (replyParts (Console.requestReply env t' r)) := by
  have shown {lines lines' : List String} {result : Except Halt Flow} (same : lines' = lines) :
      Isolated c t t' (replyParts ⟨t, lines, result⟩) (replyParts ⟨t', lines', result⟩) :=
    agree.unwritten (by rw [same])
  cases r with
  | clusterShow cluster =>
    cases address
    exact shown (agree.topologyView apart)
  | hostList cluster =>
    cases address
    exact shown (agree.topologyView apart)
  | instanceList cluster =>
    cases address
    exact shown (agree.topologyView apart)
  | hostAdd cluster ip sshUser sshPort =>
    cases address
    exact agree.additionReply apart rfl
  | instanceAdd cluster host port role master =>
    cases address
    exact agree.additionReply apart rfl
  | _ => cases address

omit agree in
/-- A line that adds to a cluster is checked as a command that adds to the same cluster. -/
theorem requestAddress?_of_asked {env : Surroundings} {p : Parsed} {r : Request} {a : Addition}
    (adds : addition? env r = some a) (asked : Asked env p a) (adds_to_it : p.shape ≠ .clusterAdd) :
    requestAddress? r = some p.clusterId := by
  cases r with
  | clusterAdd id listen =>
    cases adds
    exact absurd asked.shape adds_to_it
  | hostAdd id ip sshUser sshPort =>
    cases adds
    obtain ⟨rfl, _⟩ := asked
    rfl
  | instanceAdd id host port role master =>
    cases adds
    obtain ⟨rfl, _⟩ := asked
    rfl
  | _ => cases adds

omit agree in
private theorem requestAddress?_of_ofParsed (env : Surroundings) {p : Parsed} {r : Request}
    (checked : Request.ofParsed p = .ok r) (address : lineAddress? p = some id) : requestAddress? r = some id := by
  rw [Request.ofParsed] at checked
  rw [lineAddress?] at address
  cases shape : p.shape with
  | clusterShow =>
    rw [shape] at checked address
    cases checked
    exact address
  | hostList =>
    rw [shape] at checked address
    cases checked
    exact address
  | instanceList =>
    rw [shape] at checked address
    cases checked
    exact address
  | hostAdd =>
    rw [shape] at checked address
    obtain ⟨a, adds, asked⟩ : ∃ a, addition? env r = some a ∧ Asked env p a :=
      asked_of_checkHostAdd shape (eq_ok_of_rejecting checked)
    rw [requestAddress?_of_asked adds asked (by rw [shape]; decide)]
    exact address
  | instanceAdd =>
    rw [shape] at checked address
    obtain ⟨a, adds, asked⟩ : ∃ a, addition? env r = some a ∧ Asked env p a :=
      asked_of_checkInstanceAdd shape (eq_ok_of_rejecting checked)
    rw [requestAddress?_of_asked adds asked (by rw [shape]; decide)]
    exact address
  | _ =>
    rw [shape] at address
    cases address

theorem checkedReply {env : Surroundings} {p : Parsed} (address : lineAddress? p = some id) (apart : id ≠ c) :
    Isolated c t t' (replyParts (Console.checkedReply env t p)) (replyParts (Console.checkedReply env t' p)) := by
  rw [Console.checkedReply, Console.checkedReply]
  cases checked : Request.ofParsed p with
  | error rejection => exact agree.unwritten rfl
  | ok r => exact agree.requestReply (requestAddress?_of_ofParsed env checked address) apart

omit agree in
private theorem clusterId_of_lineAddress? {p : Parsed} (address : lineAddress? p = some id) : p.clusterId = id := by
  rw [lineAddress?] at address
  split at address
  case h_6 => cases address
  all_goals exact Option.some.inj address

theorem reply {env : Surroundings} {p : Parsed} (address : lineAddress? p = some id) (apart : id ≠ c) :
    Isolated c t t' (replyParts (Console.reply env t p)) (replyParts (Console.reply env t' p)) := by
  have known : t'.clusterExists p.clusterId = t.clusterExists p.clusterId := by
    rw [clusterId_of_lineAddress? address]
    exact agree.clusterExists apart
  rw [Console.reply, Console.reply, known]
  cases addAction? p.shape with
  | none => exact agree.checkedReply address apart
  | some action =>
    cases t.clusterExists p.clusterId with
    | error e => exact agree.unwritten rfl
    | ok there =>
      cases there with
      | true => exact agree.checkedReply address apart
      | false => exact agree.unwritten rfl

end AgreeBeyond

/-- Visits to other clusters than `c`. -/
def Visit.Elsewhere (c : String) (v : Visit) : Prop := ∃ id, v.address? = some id ∧ id ≠ c

/-- The answer to a call that adds a record. -/
def answerOf : Except AddFailure Receipt → Answer
  | .ok receipt => .added receipt
  | .error (.refused e) => .refused e
  | .error .orderExhausted => .orderExhausted

section Stores

variable {c id : String} {s s' : Store} (agree : AgreeBeyond c s.tables s'.tables)

include agree

omit agree in
private theorem answer_add (s : Store) (a : Addition) :
    s.add a = (answerOf (a.call s.tables).1, { s with tables := (a.call s.tables).2 }) := by
  rw [Store.add]
  obtain ⟨result, after⟩ := a.call s.tables
  cases result with
  | ok receipt => rfl
  | error e =>
    cases e with
    | refused e => rfl
    | orderExhausted => rfl

private theorem call_isolated {call : Call} (address : call.address? = some id) (apart : id ≠ c) :
    Isolated c s.tables s'.tables ((s.call call).1, (s.call call).2.tables)
      ((s'.call call).1, (s'.call call).2.tables) := by
  cases call with
  | add a =>
    cases address
    have called := agree.call apart
    rw [Store.call, Store.call, answer_add s, answer_add s']
    exact called.map answerOf
  | getCluster id =>
    cases address
    exact agree.unwritten (congrArg (Answer.of .cluster) (agree.getCluster apart))
  | clusterExists id =>
    cases address
    exact agree.unwritten (congrArg (Answer.of .truth) (agree.clusterExists apart))
  | listHosts id =>
    cases address
    exact agree.unwritten (congrArg (Answer.of .hosts) (agree.listHosts apart))
  | listInstances id =>
    cases address
    exact agree.unwritten (congrArg (Answer.of .instances) (agree.listInstances apart))
  | topology id =>
    cases address
    exact agree.unwritten (congrArg (Answer.of .topology) (agree.topology apart))
  | listClusters => cases address
  | reopen => cases address

omit agree in
/-- Commands that come to isolated replies are isolated on every sink. -/
theorem execute_isolated {act : Shell Flow} {r r' : Reply} (replies : Replies act s.tables r)
    (replies' : Replies act s'.tables r')
    (isolated : Isolated c s.tables s'.tables (replyParts r) (replyParts r')) (sink : Sink) :
    Isolated c s.tables s'.tables ((s.execute act sink).1, (s.execute act sink).2.tables)
      ((s'.execute act sink).1, (s'.execute act sink).2.tables) := by
  obtain ⟨seen, agree, kept, kept'⟩ := isolated
  obtain ⟨lines, result⟩ := Prod.mk.inj seen
  rw [Store.execute, Store.execute, replies.on_sink, replies'.on_sink]
  refine ⟨?_, agree, kept, kept'⟩
  rw [Reply.onSink_congr lines result]

private theorem visit_isolated {v : Visit} (elsewhere : v.Elsewhere c) :
    Isolated c s.tables s'.tables ((s.visit v).1, (s.visit v).2.tables) ((s'.visit v).1, (s'.visit v).2.tables) := by
  obtain ⟨id, address, apart⟩ := elsewhere
  cases v with
  | call call => exact (call_isolated agree address apart).map Sight.answer
  | parsed env p sink =>
    exact execute_isolated (execute_replies env _ p) (execute_replies env _ p) (agree.reply address apart) sink
  | request env r sink =>
    exact execute_isolated (run_replies env _ r) (run_replies env _ r) (agree.requestReply address apart) sink

end Stores

/-- On two stores that agree but for what they have under the id of one cluster, visits to other clusters are seen to
be the same; afterwards the stores agree as before, and each still has the same bytes under that id. -/
theorem visits_isolated {c : String} {s s' : Store} (agree : AgreeBeyond c s.tables s'.tables) {vs : List Visit}
    (elsewhere : ∀ v ∈ vs, v.Elsewhere c) :
    s'.sights vs = s.sights vs ∧ AgreeBeyond c (s.visits vs).tables (s'.visits vs).tables ∧
      KeptUnder c s.tables (s.visits vs).tables ∧ KeptUnder c s'.tables (s'.visits vs).tables := by
  induction vs generalizing s s' with
  | nil => exact ⟨rfl, agree, fun _ => rfl, fun _ => rfl⟩
  | cons v vs ih =>
    obtain ⟨seen, after, kept, kept'⟩ := visit_isolated agree (elsewhere v (.head _))
    obtain ⟨seen_rest, at_end, kept_rest, kept_rest'⟩ := ih after fun w member => elsewhere w (.tail _ member)
    refine ⟨?_, at_end, ?_, ?_⟩
    · rw [Store.sights, Store.sights, seen, seen_rest]
    · exact fun name => (kept_rest name).trans (kept name)
    · exact fun name => (kept_rest' name).trans (kept' name)

/-- One store has a cluster that the other one lacks, which has bytes that are no list in its place. On both, another
cluster is entered, gets a host while the output breaks off, and is shown. -/
theorem visits_beside_damage :
    let there := Tables.empty.put .clusters "a" (encode (⟨"a", "w", .epoch⟩ : Cluster))
    let s : Store := ⟨.fresh, "r.db", ["work", "r.db"], there⟩
    let s' : Store := { s with tables := Tables.empty.put .hosts "a" [0x5B] }
    let env : Surroundings := ⟨"w", "u", 22, .epoch⟩
    let vs : List Visit :=
      [.call (.add (.cluster ⟨"b", "w", .epoch⟩)),
        .parsed env (.ofLine "cluster b host add --ip=h") (.limited (some 5) true),
        .request env (.clusterShow "b") .unlimited]
    AgreeBeyond "a" s.tables s'.tables ∧ (∀ v ∈ vs, v.Elsewhere "a") ∧ s'.sights vs = s.sights vs := by
  intro there s s' env vs
  have agree : AgreeBeyond "a" s.tables s'.tables := (AgreeBeyond.refl "a" .empty).put .clusters .hosts _ _
  have elsewhere : ∀ v ∈ vs, v.Elsewhere "a" := by
    intro v member
    have address : v.address? = some "b" := by
      simp only [vs, List.mem_cons, List.not_mem_nil, or_false] at member
      rcases member with rfl | rfl | rfl
      · rfl
      · decide +kernel
      · rfl
    exact ⟨"b", address, by decide⟩
  obtain ⟨seen, _⟩ := visits_isolated agree elsewhere
  exact ⟨agree, elsewhere, seen⟩

end ClusterRegister.Register
