import ClusterRegister.Proofs.Requests
import ClusterRegister.Proofs.StoredForms

/-!
# Confirmations

A line is confirmed exactly if it has changed the contents. What has changed then is one record, which has the
values of the flags or the defaults, and what is shown after the confirmation is the view of the new contents.
-/

namespace ClusterRegister.Console

open ClusterRegister.Line ClusterRegister.Record ClusterRegister.Register

/-- Contents before and after a cluster was entered under a number: nothing else is different. -/
structure ClusterEntered (c : Cluster) (n : UInt64) (t t' : Tables) : Prop where
  new_id : t.clusters.get? c.id = none
  new_number : t.order.get? n = none
  clusters : t'.clusters = t.clusters.insert c.id (encode c)
  order : t'.order = t.order.insert n c.id
  hosts : t'.hosts = t.hosts
  instances : t'.instances = t.instances

/-- Contents before and after the list of a cluster grew by a record at its end: no other entry of any table is
different. -/
structure ListGrown {α : Type} [Stored α] (name : TableName) (cluster : String) (a : α) (t t' : Tables) :
    Prop where
  longer : ∃ as : List α, t.readList name cluster = .ok as ∧ t'.readList name cluster = .ok (as ++ [a])
  others : ∀ other key, (other, key) ≠ (name, cluster) → (t'.records other).get? key = (t.records other).get? key
  order : t'.order = t.order

theorem ClusterEntered.changed {c : Cluster} {n : UInt64} {t t' : Tables} (entered : ClusterEntered c n t t') :
    t' ≠ t := by
  rintro rfl
  have under : t'.clusters.get? c.id = some (encode c) := by
    rw [entered.clusters]
    exact Table.get?_insert_self _ _ _
  rw [entered.new_id] at under
  cases under

theorem ListGrown.changed {α : Type} [Stored α] {name : TableName} {cluster : String} {a : α} {t t' : Tables}
    (grown : ListGrown name cluster a t t') : t' ≠ t := by
  rintro rfl
  obtain ⟨as, before, after⟩ := grown.longer
  rw [before, Except.ok.injEq] at after
  have lengths := congrArg List.length after
  simp at lengths

/-- The cluster whose list grew is still there. -/
theorem ListGrown.known {α : Type} [Stored α] {name : TableName} {cluster : String} {a : α} {t t' : Tables}
    (grown : ListGrown name cluster a t t') (apart : name ≠ .clusters) (known : cluster ∈ t.clusters.keys) :
    cluster ∈ t'.clusters.keys := by
  have same : t'.clusters.get? cluster = t.clusters.get? cluster := by
    refine grown.others .clusters cluster fun same => ?_
    exact apart (Prod.mk.inj same).1.symm
  rw [Table.mem_keys_iff, Table.contains, same]
  exact Table.mem_keys_iff.1 known

private theorem listGrown_put {α : Type} [Stored α] [Exact α] {t : Tables} {name : TableName} {cluster : String}
    {as : List α} (list : t.readList name cluster = .ok as) (a : α) :
    ListGrown name cluster a t (t.put name cluster (encodeList (as ++ [a]))) where
  longer := by
    refine ⟨as, list, ?_⟩
    have under : ((t.put name cluster (encodeList (as ++ [a]))).records name).get? cluster =
        some (encodeList (as ++ [a])) := by
      rw [Tables.records_put, if_pos rfl, Table.get?_insert_self]
    rw [Tables.readList_of_found under, decodeList_exact]
    rfl
  others other key apart := by
    rw [Tables.records_put]
    by_cases same : other = name
    · have different : key ≠ cluster := by
        rintro rfl
        exact apart (by rw [same])
      rw [if_pos same, Table.get?_insert_ne _ different, same]
    · rw [if_neg same]
  order := Tables.order_put t name cluster _

/-- The text of a view, or of the one line that reports why it cannot be read. -/
def viewText {α : Type} (action : String) (lines : α → List String) : Except Error α → String
  | .ok a => linesText (lines a)
  | .error e => "  [error] " ++ action ++ " failed: " ++ e.message ++ "\n"

private theorem linesText_viewLines {α : Type} {action : String} {lines : α → List String} {view : Except Error α}
    (storage : ∀ e, view = .error e → e.kind = .persistence) :
    linesText (viewLines action lines view) = viewText action lines view := by
  cases view with
  | ok a => rfl
  | error e =>
    have named : reportLine action e = "  [error] " ++ action ++ " failed: " ++ e.message := by
      rw [reportLine, storage e rfl]
    have text : linesText [reportLine action e] = reportLine action e ++ "\n" ++ "" := rfl
    rw [viewLines, text, named, String.append_empty, viewText]

private theorem kind_of_interpret {α : Type} {name : TableName} {key : String} {read : Except Json.Malformed α}
    {e : Error} (failed : Tables.interpret name key read = .error e) : e.kind = .persistence := by
  cases read with
  | ok a => cases failed
  | error reason =>
    cases failed
    rfl

private theorem kind_of_readClusters {t : Tables} {ids : List String} {e : Error}
    (failed : t.readClusters ids = .error e) : e.kind = .persistence := by
  induction ids with
  | nil => cases failed
  | cons id ids ih =>
    rw [Tables.readClusters] at failed
    cases found : t.clusters.get? id with
    | none =>
      rw [found] at failed
      exact ih failed
    | some blob =>
      rw [found] at failed
      rcases bind_eq_error failed with record | ⟨c, _, failed⟩
      · exact kind_of_interpret record
      · rcases bind_eq_error failed with rest | ⟨cs, _, done⟩
        · exact ih rest
        · cases done

private theorem kind_of_readList {α : Type} [Stored α] {t : Tables} {name : TableName} {key : String} {e : Error}
    (failed : t.readList (α := α) name key = .error e) : e.kind = .persistence := by
  obtain ⟨blob, reason, _, _, rfl⟩ := Tables.readList_eq_error_iff.1 failed
  rfl

private theorem kind_of_topology {t : Tables} {cluster : String} (known : cluster ∈ t.clusters.keys) {e : Error}
    (failed : t.topology cluster = .error e) : e.kind = .persistence := by
  obtain ⟨blob, found⟩ := Table.contains_iff.1 (Table.mem_keys_iff.1 known)
  have get : t.getCluster cluster = Tables.interpret .clusters cluster (decode blob) := by
    rw [Tables.getCluster, found]
  rcases bind_eq_error failed with record | ⟨c, _, failed⟩
  · rw [get] at record
    exact kind_of_interpret record
  rcases bind_eq_error failed with hosts | ⟨hs, _, failed⟩
  · exact kind_of_readList hosts
  rcases bind_eq_error failed with instances | ⟨is, _, done⟩
  · exact kind_of_readList instances
  · cases done

private theorem linesText_clustersView (t : Tables) :
    linesText (clustersView t) = viewText "list clusters" clusterLines t.listClusters :=
  linesText_viewLines fun _ failed => kind_of_readClusters failed

private theorem linesText_topologyView {t : Tables} {cluster : String} (known : cluster ∈ t.clusters.keys) :
    linesText (topologyView t cluster) = viewText "read topology" topologyLines (t.topology cluster) :=
  linesText_viewLines fun _ failed => kind_of_topology known failed

/-- What a confirmed line did to the contents, and the text that it showed: the confirmation, and after it the
view of the new contents. -/
inductive Confirmed (env : Surroundings) (p : Parsed) (t t' : Tables) : String → Prop
  | cluster {c : Cluster} {n : UInt64} : ClusterGiven env p c → ClusterEntered c n t t' →
    Confirmed env p t t' ("  [ok] cluster added: " ++ c.id ++ "\n" ++
      viewText "list clusters" clusterLines t'.listClusters)
  | host {h : Host} : HostGiven env p h → h.id = h.ip → h.clusterId = p.clusterId →
    ListGrown .hosts p.clusterId h t t' →
    Confirmed env p t t' ("  [ok] host added: " ++ h.ip ++ " to cluster " ++ p.clusterId ++ "\n" ++
      viewText "read topology" topologyLines (t'.topology p.clusterId))
  | inst {i : Instance} : InstanceGiven p i → i.id = i.addr → i.clusterId = p.clusterId →
    ListGrown .instances p.clusterId i t t' →
    Confirmed env p t t' ("  [ok] instance added: " ++ i.id ++ " role " ++ i.role.name ++ " to cluster " ++
      p.clusterId ++ "\n" ++ viewText "read topology" topologyLines (t'.topology p.clusterId))

theorem Confirmed.changed {env : Surroundings} {p : Parsed} {t t' : Tables} {text : String}
    (confirmed : Confirmed env p t t' text) : t' ≠ t := by
  cases confirmed with
  | cluster _ entered => exact entered.changed
  | host _ _ _ grown => exact grown.changed
  | inst _ _ _ grown => exact grown.changed

/-- Text that begins as confirmations do. -/
def StartsOk (bs : Bytes) : Prop := Utf8.bytes "  [ok] " <+: bs

instance (bs : Bytes) : Decidable (StartsOk bs) := inferInstanceAs (Decidable (Utf8.bytes "  [ok] " <+: bs))

theorem StartsOk.append {a : String} (starts : StartsOk (Utf8.bytes a)) (b : String) :
    StartsOk (Utf8.bytes (a ++ b)) := by
  rw [Utf8.bytes_append]
  exact List.IsPrefix.trans starts (List.prefix_append _ _)

theorem Confirmed.startsOk {env : Surroundings} {p : Parsed} {t t' : Tables} {text : String}
    (confirmed : Confirmed env p t t' text) : StartsOk (Utf8.bytes text) := by
  cases confirmed with
  | cluster _ _ =>
    have mark : StartsOk (Utf8.bytes "  [ok] cluster added: ") := ⟨Utf8.bytes "cluster added: ", by decide⟩
    exact ((mark.append _).append _).append _
  | host _ _ _ _ =>
    have mark : StartsOk (Utf8.bytes "  [ok] host added: ") := ⟨Utf8.bytes "host added: ", by decide⟩
    exact ((((mark.append _).append _).append _).append _).append _
  | inst _ _ _ _ =>
    have mark : StartsOk (Utf8.bytes "  [ok] instance added: ") := ⟨Utf8.bytes "instance added: ", by decide⟩
    exact ((((((mark.append _).append _).append _).append _).append _).append _).append _

/-- Two texts of which neither goes on as the other do not start alike. -/
theorem not_prefix_of_apart {a b : Bytes} (apart : a.take b.length ≠ b.take a.length) (rest : Bytes) :
    ¬ a <+: b ++ rest := by
  rintro ⟨more, same⟩
  apply apart
  have common := congrArg (List.take (min b.length a.length)) same
  rw [List.take_append_of_le_length (Nat.min_le_right _ _),
    List.take_append_of_le_length (Nat.min_le_left _ _)] at common
  calc a.take b.length = a.take (min b.length a.length) := List.take_eq_take_min
    _ = b.take (min a.length b.length) := by rw [common, Nat.min_comm]
    _ = b.take a.length := List.take_eq_take_min.symm

/-- Lines whose text starts with a mark that confirmations do not have. -/
theorem not_startsOk {mark : String}
    (apart : (Utf8.bytes "  [ok] ").take (Utf8.bytes mark).length ≠
      (Utf8.bytes mark).take (Utf8.bytes "  [ok] ").length)
    (rest : String) : ¬ StartsOk (Utf8.bytes (mark ++ rest)) := by
  rw [Utf8.bytes_append]
  exact not_prefix_of_apart apart _

theorem linesText_cons (line : String) (lines : List String) :
    linesText (line :: lines) = line ++ "\n" ++ linesText lines := rfl

theorem reportLine_eq (action : String) (e : Error) : ∃ rest, reportLine action e = "  [error] " ++ rest := by
  cases kind : e.kind with
  | persistence =>
    refine ⟨action ++ " failed: " ++ e.message, ?_⟩
    rw [reportLine, kind]
    simp only [String.append_assoc]
  | validation => exact ⟨e.message, by rw [reportLine, kind]⟩
  | notFound => exact ⟨e.message, by rw [reportLine, kind]⟩

private theorem not_startsOk_error (message : String) (lines : List String) :
    ¬ StartsOk (Utf8.bytes (linesText (("  [error] " ++ message) :: lines))) := by
  rw [linesText_cons, String.append_assoc, String.append_assoc]
  exact not_startsOk (by decide) _

private theorem not_startsOk_report (action : String) (e : Error) :
    ¬ StartsOk (Utf8.bytes (linesText [reportLine action e])) := by
  obtain ⟨rest, same⟩ := reportLine_eq action e
  rw [same]
  exact not_startsOk_error rest []

private theorem not_startsOk_clusters (t : Tables) : ¬ StartsOk (Utf8.bytes (linesText (clustersView t))) := by
  rw [clustersView]
  cases t.listClusters with
  | error e => exact not_startsOk_report _ e
  | ok cs =>
    cases cs with
    | nil =>
      have first : viewLines "list clusters" clusterLines (.ok []) = ["  [topology] no clusters"] := rfl
      rw [first]
      decide
    | cons c cs =>
      have first : viewLines "list clusters" clusterLines (.ok (c :: cs)) =
          "  ---------- clusters ----------" ::
            ((c :: cs).map clusterLine ++ ["  ------------------------------"]) := rfl
      rw [first, linesText_cons, String.append_assoc]
      exact not_startsOk (by decide) _

private theorem not_startsOk_topology (t : Tables) (cluster : String) :
    ¬ StartsOk (Utf8.bytes (linesText (topologyView t cluster))) := by
  rw [topologyView]
  cases t.topology cluster with
  | error e => exact not_startsOk_report _ e
  | ok topology =>
    have first : ∃ rest, topologyLines topology =
        ("  ---------- cluster " ++ topology.cluster.id ++ " topology ----------") :: rest := ⟨_, rfl⟩
    obtain ⟨rest, same⟩ := first
    rw [viewLines, same, linesText_cons]
    simp only [String.append_assoc]
    exact not_startsOk (by decide) _

private theorem not_startsOk_shownLines (t : Tables) (request : Request) :
    ¬ StartsOk (Utf8.bytes (linesText (shownLines t request))) := by
  have nothing : ¬ StartsOk (Utf8.bytes (linesText [])) := by decide
  have help : ¬ StartsOk (Utf8.bytes (linesText helpLines)) := by
    have first : ∃ rest, linesText helpLines = "\n" ++ rest := ⟨_, rfl⟩
    obtain ⟨rest, same⟩ := first
    rw [same]
    exact not_startsOk (by decide) rest
  cases request with
  | help => exact help
  | usage topic =>
    cases topic with
    | general => exact help
    | clusterShow =>
      rw [shownLines, linesText_cons, usageLine, String.append_assoc, String.append_assoc]
      exact not_startsOk (by decide) _
  | unknown =>
    rw [shownLines, linesText_cons, String.append_assoc]
    exact not_startsOk (by decide) _
  | clusterList => exact not_startsOk_clusters t
  | clusterShow cluster => exact not_startsOk_topology t cluster
  | hostList cluster => exact not_startsOk_topology t cluster
  | instanceList cluster => exact not_startsOk_topology t cluster
  | _ => exact nothing

/-- A reply that confirms a change, or that leaves the contents as they are and confirms nothing. -/
def Honest (env : Surroundings) (p : Parsed) (t : Tables) (r : Reply) : Prop :=
  (r.tables = t ∧ ¬ StartsOk (Utf8.bytes (linesText r.lines))) ∨ Confirmed env p t r.tables (linesText r.lines)

section Honesty

variable {env : Surroundings} {p : Parsed} (t : Tables)

private theorem honest_shown {lines : List String} (plain : ¬ StartsOk (Utf8.bytes (linesText lines))) :
    Honest env p t (.shown t lines) := .inl ⟨rfl, plain⟩

private theorem honest_refused (a : Addition) {e : Error} (refused : t.add a = .error (.refused e)) :
    Honest env p t (additionReply t a) := by
  rw [additionReply, refused]
  exact .inl ⟨rfl, not_startsOk_report _ e⟩

private theorem honest_cluster {c : Cluster} (given : ClusterGiven env p c) :
    Honest env p t (additionReply t (.cluster c)) := by
  rcases addCluster_outcome t c with ⟨e, _, refused⟩ | ⟨no_objection, n, next, accepted⟩
  · cases e with
    | refused e => exact honest_refused t _ (by rw [Tables.add, refused]; rfl)
    | orderExhausted =>
      have failed : t.add (.cluster c) = .error .orderExhausted := by
        rw [Tables.add, refused]
        rfl
      have nothing : ¬ StartsOk (Utf8.bytes (linesText [])) := by decide
      rw [additionReply, failed]
      exact .inl ⟨rfl, nothing⟩
  · have fresh : t.clusters.get? c.id = none := by
      rw [Option.eq_none_iff_forall_not_mem]
      intro blob under
      exact no_objection 1 _ (.duplicate (Table.mem_keys_iff.2 (Table.contains_iff.2 ⟨blob, under⟩)))
    have entered : ClusterEntered c n t { t.put .clusters c.id (encode c) with order := t.order.insert n c.id } :=
      ⟨fresh, Tables.nextNumber_free next, rfl, rfl, rfl, rfl⟩
    have added := Confirmed.cluster given entered
    rw [← linesText_clustersView] at added
    rw [additionReply, Tables.add, accepted]
    exact .inr added

private theorem honest_host {h : Host} (given : HostGiven env p h) :
    Honest env p t (additionReply t (.host p.clusterId h)) := by
  rcases addHost_outcome t p.clusterId h with ⟨e, _, refused⟩ | ⟨no_objection, hs, list, accepted⟩
  · exact honest_refused t _ (by rw [Tables.add, refused])
  · have known : p.clusterId ∈ t.clusters.keys := Classical.byContradiction fun unknown =>
      no_objection 1 _ (.noClusterForHost unknown)
    have listed : HostGiven env p { h with id := h.ip, clusterId := p.clusterId } :=
      ⟨given.shape, given.ip, given.sshUser, given.sshPort, given.sshPort_default⟩
    have grown := listGrown_put list { h with id := h.ip, clusterId := p.clusterId }
    have added := Confirmed.host listed rfl rfl grown
    rw [← linesText_topologyView (grown.known (by decide) known)] at added
    rw [additionReply, Tables.add, accepted]
    exact .inr added

private theorem honest_instance {i : Instance} (given : InstanceGiven p i) :
    Honest env p t (additionReply t (.inst p.clusterId i)) := by
  rcases addInstance_outcome t p.clusterId i with ⟨e, _, refused⟩ | ⟨no_objection, is, list, accepted⟩
  · exact honest_refused t _ (by rw [Tables.add, refused])
  · have known : p.clusterId ∈ t.clusters.keys := Classical.byContradiction fun unknown =>
      no_objection 2 _ (.noClusterForInstance unknown)
    have listed : InstanceGiven p { i with id := i.addr, clusterId := p.clusterId } :=
      ⟨given.shape, given.host, given.port, given.role, given.role_default, given.masterAddr⟩
    have grown := listGrown_put list { i with id := i.addr, clusterId := p.clusterId }
    have added : Confirmed env p t _ _ := .inst listed rfl rfl grown
    rw [← linesText_topologyView (grown.known (by decide) known)] at added
    rw [additionReply, Tables.add, accepted]
    exact .inr added

private theorem honest_addition {a : Addition} (asked : Asked env p a) : Honest env p t (additionReply t a) := by
  cases a with
  | cluster c => exact honest_cluster t asked
  | host cluster h =>
    obtain ⟨rfl, given⟩ := asked
    exact honest_host t given
  | inst cluster i =>
    obtain ⟨rfl, given⟩ := asked
    exact honest_instance t given

private theorem honest_checked : Honest env p t (checkedReply env t p) := by
  rw [checkedReply]
  cases checked : Request.ofParsed p with
  | error rejection => exact honest_shown t (not_startsOk_error _ _)
  | ok request =>
    have reply : Honest env p t (requestReply env t request) := by
      rw [requestReply]
      cases adds : addition? env request with
      | some a => exact honest_addition t (asked_of_ofParsed checked adds)
      | none => exact .inl ⟨rfl, not_startsOk_shownLines t request⟩
    exact reply

end Honesty

private theorem honest_reply (env : Surroundings) (t : Tables) (p : Parsed) : Honest env p t (reply env t p) := by
  rw [reply]
  cases addAction? p.shape with
  | none => exact honest_checked t
  | some action =>
    cases t.clusterExists p.clusterId with
    | error e => exact honest_shown t (not_startsOk_report action e)
    | ok there =>
      cases there with
      | true => exact honest_checked t
      | false => exact honest_shown t (not_startsOk_report action _)

/-- On any contents, what a line shows starts as a confirmation does exactly if it has changed the contents; the
change and the rest of what it shows are then those of a confirmed line. -/
theorem confirms_iff_changes (env : Surroundings) (p : Parsed) (t : Tables) :
    let desk := ((execute env p).on ⟨t, .unlimited⟩).2
    (StartsOk desk.sink.written.toList ↔ desk.tables ≠ t) ∧
      (desk.tables = t ∨
        ∃ text, Confirmed env p t desk.tables text ∧ desk.sink.written.toList = Utf8.bytes text) := by
  intro desk
  have outcome : desk = ⟨(reply env t p).tables,
      ⟨(Utf8.bytes (linesText (reply env t p).lines)).toArray, none, none⟩⟩ :=
    congrArg Prod.snd (execute_replies env t p).on_unlimited
  rw [outcome]
  rcases honest_reply env t p with ⟨same, plain⟩ | confirmed
  · constructor
    · constructor
      · intro starts
        exact absurd starts plain
      · intro changed
        exact absurd same changed
    · exact .inl same
  · constructor
    · constructor
      · intro _
        exact confirmed.changed
      · intro _
        exact confirmed.startsOk
    · exact .inr ⟨_, confirmed, rfl⟩

end ClusterRegister.Console
