import ClusterRegister.Proofs.Rows

/-!
# Screens

What the reply to a line shows on contents that were made by lines without line feeds: a report at most, and after it
the clusters or the topology of one cluster, as they are in the contents. No view fails, and nothing that is shown is
broken by a line feed (`reply_screen`).
-/

namespace ClusterRegister.Console

open ClusterRegister.Line ClusterRegister.Record ClusterRegister.Register ClusterRegister.Text

/-- An error whose words have no line feed; damaged records are not among them. -/
def UnbrokenError : Error → Prop
  | .invalidInput _ => True
  | .clusterNotFound id => Unbroken id
  | .duplicateCluster id => Unbroken id
  | .corrupted _ _ _ => False

theorem UnbrokenError.report {e : Error} (unbroken : UnbrokenError e) (action : String) :
    Unbroken (reportLine action e) := by
  have mark : Unbroken "  [error] " := by decide
  cases e with
  | invalidInput what => exact mark.append (by cases what <;> decide)
  | clusterNotFound id => exact mark.append (.append (by decide) unbroken)
  | duplicateCluster id => exact mark.append (.append (by decide) unbroken)
  | corrupted table key reason => exact absurd unbroken id

private theorem starts_reportLine (action : String) (e : Error) : Starts "  [error] " (reportLine action e) := by
  obtain ⟨rest, line⟩ := reportLine_eq action e
  rw [line]
  exact (Starts.self _).append rest

private theorem required_error {p : Parsed} {key : String} {fault : FlagFault}
    (failed : required p key = .error fault) :
    fault = .missing key := by
  rw [required] at failed
  cases given : p.flag key with
  | none =>
    rw [given] at failed
    cases failed
    rfl
  | some value =>
    rw [given] at failed
    cases failed

private theorem portFlag_error {key value : String} {fault : FlagFault} (failed : portFlag key value = .error fault) :
    fault = .badPort key value := by
  rw [portFlag] at failed
  cases read : port? (trim value.toList) with
  | none =>
    rw [read] at failed
    cases failed
    rfl
  | some port =>
    rw [read] at failed
    cases failed

private theorem roleFlag_error {given : Option String} {fault : FlagFault} (failed : roleFlag given = .error fault) :
    ∃ value, given = some value ∧ fault = .badRole value := by
  cases given with
  | none => cases failed
  | some value =>
    refine ⟨value, rfl, ?_⟩
    simp only [roleFlag] at failed
    cases named : Role.ofText value with
    | ok role =>
      rw [named] at failed
      cases failed
    | error name =>
      rw [named] at failed
      cases failed
      rfl

/-- A fault whose words have no line feed. -/
def UnbrokenFault : FlagFault → Prop
  | .missing key => Unbroken key
  | .badPort key value => Unbroken key ∧ Unbroken value
  | .badRole value => Unbroken value

section Checks

variable {p : Parsed} (unbroken : UnbrokenLine p) {fault : FlagFault}

private theorem unbroken_required {key : String} (known : Unbroken key) (failed : required p key = .error fault) :
    UnbrokenFault fault := by
  rw [required_error failed]
  exact known

include unbroken

private theorem unbroken_portFlag {key value : String} (known : Unbroken key) (given : p.flag key = some value)
    (failed : portFlag key value = .error fault) : UnbrokenFault fault := by
  rw [portFlag_error failed]
  exact ⟨known, unbroken.flag given⟩

private theorem unbroken_checkHostAdd (failed : checkHostAdd p = .error fault) : UnbrokenFault fault := by
  rcases bind_eq_error failed with missing | ⟨ip, _, failed⟩
  · exact unbroken_required (by decide) missing
  · cases given : p.flag "ssh-port" with
    | none =>
      rw [given] at failed
      cases failed
    | some value =>
      rw [given] at failed
      rcases bind_eq_error failed with bad | ⟨port, _, failed⟩
      · exact unbroken_portFlag unbroken (by decide) given bad
      · cases failed

private theorem unbroken_checkInstanceAdd (failed : checkInstanceAdd p = .error fault) : UnbrokenFault fault := by
  rcases bind_eq_error failed with missing | ⟨host, _, failed⟩
  · exact unbroken_required (by decide) missing
  rcases bind_eq_error failed with missing | ⟨value, given, failed⟩
  · exact unbroken_required (by decide) missing
  rcases bind_eq_error failed with bad | ⟨port, _, failed⟩
  · exact unbroken_portFlag unbroken (by decide) (flag_of_required given) bad
  rcases bind_eq_error failed with bad | ⟨role, _, failed⟩
  · obtain ⟨name, named, rfl⟩ := roleFlag_error bad
    exact unbroken.flag named
  · cases failed

private theorem unbroken_rejection {rejection : Rejection} (rejected : Request.ofParsed p = .error rejection) :
    Unbroken rejection.message := by
  have of_fault {command : AddCommand} {checked : Except FlagFault Request}
      (faults : ∀ fault, checked = .error fault → UnbrokenFault fault)
      (rejected : rejecting command checked = .error rejection) : UnbrokenFault rejection.fault := by
    cases checked with
    | ok request => cases rejected
    | error fault =>
      cases rejected
      exact faults fault rfl
  have whole : UnbrokenFault rejection.fault := by
    rw [Request.ofParsed] at rejected
    cases shape : p.shape with
    | clusterAdd =>
      rw [shape] at rejected
      refine of_fault (fun fault failed => ?_) rejected
      rcases bind_eq_error failed with missing | ⟨id, _, failed⟩
      · exact unbroken_required (by decide) missing
      · cases failed
    | hostAdd =>
      rw [shape] at rejected
      exact of_fault (fun fault => unbroken_checkHostAdd unbroken) rejected
    | instanceAdd =>
      rw [shape] at rejected
      exact of_fault (fun fault => unbroken_checkInstanceAdd unbroken) rejected
    | _ =>
      rw [shape] at rejected
      cases rejected
  rw [Rejection.message]
  cases fault : rejection.fault with
  | missing key =>
    rw [fault] at whole
    exact Unbroken.append (by decide) whole
  | badPort key value =>
    rw [fault] at whole
    exact ((whole.1.append (by decide)).append whole.2).append (by decide)
  | badRole value =>
    rw [fault] at whole
    exact (Unbroken.append (by decide) whole).append (by decide)

end Checks

private theorem starts_confirmation (a : Addition) : Starts "  [ok] " (confirmation a) := by
  cases a with
  | cluster c =>
    have mark : Starts "  [ok] " "  [ok] cluster added: " := ⟨Utf8.bytes "cluster added: ", by decide⟩
    exact mark.append _
  | host cluster h =>
    have mark : Starts "  [ok] " "  [ok] host added: " := ⟨Utf8.bytes "host added: ", by decide⟩
    exact ((mark.append _).append _).append _
  | inst cluster i =>
    have mark : Starts "  [ok] " "  [ok] instance added: " := ⟨Utf8.bytes "instance added: ", by decide⟩
    exact ((((mark.append _).append _).append _).append _).append _

private theorem unbroken_confirmation {a : Addition} (unbroken : UnbrokenAddition a) : Unbroken (confirmation a) := by
  cases a with
  | cluster c => exact .append (by decide) unbroken.1
  | host cluster h =>
    obtain ⟨named, ip, _⟩ := unbroken
    exact ((Unbroken.append (by decide) ip).append (by decide)).append named
  | inst cluster i =>
    obtain ⟨named, host, _⟩ := unbroken
    have role : Unbroken i.role.name := by cases i.role <;> decide
    have address : Unbroken ("  [ok] instance added: " ++ i.addr) := .append (by decide) (unbroken_addr host)
    exact (((address.append (by decide)).append role).append (by decide)).append named

/-- The clusters of contents, without line feeds. -/
structure ClustersOf (t : Tables) (cs : List Cluster) : Prop where
  listed : t.listClusters = .ok cs
  ordered : cs.map (·.id) = t.order.values
  unbroken : ∀ c ∈ cs, c.Unbroken

/-- The topology of a cluster of contents, without line feeds. -/
structure TopologyOf (t : Tables) (cluster : String) (topology : Topology) : Prop where
  known : cluster ∈ t.clusters.keys
  shown : t.topology cluster = .ok topology
  unbroken : UnbrokenTopology topology

section Contents

variable {r : Roster} {t : Tables} (rep : Represents r t)

include rep

private theorem refused_of_missing {id : String} (unknown : id ∉ r.ids) :
    t.topology id = .error (.clusterNotFound id) := by
  rw [rep.topology id, Roster.topology, Roster.under?_eq_none_iff.2 unknown]
  rfl

variable (origin : ∀ e ∈ r, e.From UnbrokenAddition)

include origin

private theorem clustersOf : ClustersOf t (r.listClusters.map Cluster.carried) where
  listed := rep.listClusters
  ordered := by
    rw [Table.values, rep.order, values_numbered, Roster.listClusters, List.map_map, List.map_map]
    rfl
  unbroken c member := by
    rw [Roster.listClusters, List.map_map] at member
    obtain ⟨e, inside, rfl⟩ := List.mem_map.1 member
    exact unbroken_carried (origin e inside)

private theorem topologyOf {id : String} (known : id ∈ r.ids) : ∃ topology, TopologyOf t id topology := by
  cases found : r.under? id with
  | none => exact absurd known (Roster.under?_eq_none_iff.1 found)
  | some e =>
    have from_lines := origin e (Roster.mem_of_under? found)
    refine ⟨⟨e.cluster.carried, e.hosts, e.instances⟩, (rep.mem_ids_iff id).1 known, ?_, ?_⟩
    · rw [rep.topology id, Roster.topology, found]
      rfl
    · exact ⟨unbroken_carried from_lines, fun h => unbroken_host from_lines, fun i => unbroken_instance from_lines⟩

end Contents

/-- Lines that show the topology of a cluster. -/
def ShowsCluster (p : Parsed) : Prop := p.shape = .clusterShow ∨ p.shape = .hostList ∨ p.shape = .instanceList

/-- Lines that add a host or an instance to a cluster. -/
def AddsToCluster (p : Parsed) : Prop := p.shape = .hostAdd ∨ p.shape = .instanceAdd

section Kinds

variable {p : Parsed}

theorem ShowsCluster.not_clusterList (shows : ShowsCluster p) : p.shape ≠ .clusterList := by
  rcases shows with shape | shape | shape <;> rw [shape] <;> decide

theorem ShowsCluster.not_clusterAdd (shows : ShowsCluster p) : p.shape ≠ .clusterAdd := by
  rcases shows with shape | shape | shape <;> rw [shape] <;> decide

theorem AddsToCluster.not_clusterList (adds : AddsToCluster p) : p.shape ≠ .clusterList := by
  rcases adds with shape | shape <;> rw [shape] <;> decide

theorem AddsToCluster.not_clusterAdd (adds : AddsToCluster p) : p.shape ≠ .clusterAdd := by
  rcases adds with shape | shape <;> rw [shape] <;> decide

theorem AddsToCluster.not_showsCluster (adds : AddsToCluster p) : ¬ ShowsCluster p := by
  rcases adds with shape | shape <;> rw [ShowsCluster, shape] <;> decide

/-- Lines that add something do not ask for a view. -/
theorem not_view_of_adds (adds : p.shape = .clusterAdd ∨ AddsToCluster p) :
    p.shape ≠ .clusterList ∧ ¬ ShowsCluster p := by
  rcases adds with shape | adds
  · exact ⟨by rw [shape]; decide, fun shows => shows.not_clusterAdd shape⟩
  · exact ⟨adds.not_clusterList, adds.not_showsCluster⟩

end Kinds

/-- Lines without line feeds that are neither reports nor rows. -/
def Quiet (lines : List String) : Prop := ∀ line ∈ lines, Unbroken line ∧ Marked none line

instance (lines : List String) : Decidable (Quiet lines) := List.decidableBAll _ lines

theorem Quiet.nil : Quiet [] := fun line nowhere => by cases nowhere

theorem Quiet.unbroken {lines : List String} (quiet : Quiet lines) : ∀ line ∈ lines, Unbroken line :=
  fun line member => (quiet line member).1

theorem Quiet.markedLines {lines : List String} (quiet : Quiet lines) (m : Mark) : markedLines m lines = [] :=
  markedLines_none (fun line member => (quiet line member).2) m

/-- What the reply to a line shows, where `t` are the contents after it. -/
inductive Screen (p : Parsed) (t : Tables) : List String → Prop
  | plain {lines : List String} : p.shape ≠ .clusterList → ¬ ShowsCluster p → Quiet lines → Screen p t lines
  | refused {report : String} {lines : List String} : p.shape ≠ .clusterList →
    (ShowsCluster p → p.clusterId ∉ t.clusters.keys) → Starts "  [error] " report → Unbroken report →
    Quiet lines → Screen p t (report :: lines)
  | clusters {cs : List Cluster} : p.shape = .clusterList → ClustersOf t cs → Screen p t (clusterLines cs)
  | topology {topology : Topology} : ShowsCluster p → TopologyOf t p.clusterId topology →
    Screen p t (topologyLines topology)
  | clusterAdded {report : String} {cs : List Cluster} : p.shape = .clusterAdd → Starts "  [ok] " report →
    Unbroken report → ClustersOf t cs → Screen p t (report :: clusterLines cs)
  | addedToCluster {report : String} {topology : Topology} : AddsToCluster p → Starts "  [ok] " report →
    Unbroken report → TopologyOf t p.clusterId topology → Screen p t (report :: topologyLines topology)

private theorem quiet_help : Quiet helpLines := by decide +kernel

private theorem quiet_unknown : Quiet ["  unknown command, type help for usage"] := by decide +kernel

private theorem quiet_usage (usage : String) (unbroken : Unbroken usage) : Quiet [usageLine usage] := by
  intro line member
  rw [List.mem_singleton.1 member]
  exact ⟨.append (by decide) unbroken, marked_usageLine usage⟩

theorem Screen.of_error {p : Parsed} {t : Tables} {e : Error} (no_list : p.shape ≠ .clusterList)
    (missing : ShowsCluster p → p.clusterId ∉ t.clusters.keys) (unbroken : UnbrokenError e) (action : String) :
    Screen p t [reportLine action e] :=
  .refused no_list missing (starts_reportLine action e) (unbroken.report action) .nil

section Replies

variable {r : Roster} {t : Tables} (rep : Represents r t)

include rep

private theorem unbrokenError_of_refused {a : Addition} (unbroken : UnbrokenAddition a) {e : Error}
    (refused : t.add a = .error (.refused e)) : UnbrokenError e := by
  rcases add_outcome t a with ⟨failure, ⟨rank, objection, _⟩, failed⟩ | ⟨_, receipt, t', accepted⟩
  · rw [refused] at failed
    cases failed
    cases objection with
    | blankId _ => trivial
    | duplicate _ => exact unbroken.1
    | blankIp _ => trivial
    | noClusterForHost _ => exact unbroken.1
    | corruptHosts found corrupt =>
      rw [rep.hosts] at found
      obtain ⟨e, _, _, _, _, same⟩ := rep.listed_entry found
      rw [same, decodeList_exact] at corrupt
      cases corrupt
    | blankHost _ => trivial
    | zeroPort _ => trivial
    | noClusterForInstance _ => exact unbroken.1
    | corruptInstances found corrupt =>
      rw [rep.instances] at found
      obtain ⟨e, _, _, _, _, same⟩ := rep.listed_entry found
      rw [same, decodeList_exact] at corrupt
      cases corrupt
  · rw [refused] at accepted
    cases accepted

omit rep in
private theorem mem_ids_change {id : String} {f : RosterEntry → RosterEntry} (known : (r.under? id).isSome = true)
    (keeps : ∀ e, (f e).cluster = e.cluster) : id ∈ (r.change id f).ids := by
  rw [Roster.ids_change keeps]
  apply Classical.not_not.1
  intro unknown
  rw [Roster.under?_eq_none_iff.2 unknown] at known
  cases known

variable (origin : ∀ e ∈ r, e.From UnbrokenAddition)

include origin

private theorem additionReply_screen {env : Surroundings} {p : Parsed} {a : Addition} (asked : Asked env p a)
    (unbroken : UnbrokenAddition a) : Screen p (additionReply t a).tables (additionReply t a).lines := by
  have shape : p.shape = .clusterAdd ∨ AddsToCluster p := by
    cases a with
    | cluster c => exact .inl asked.shape
    | host cluster h => exact .inr (.inl asked.2.shape)
    | inst cluster i => exact .inr (.inr asked.2.shape)
  obtain ⟨no_list, no_show⟩ := not_view_of_adds shape
  rw [additionReply]
  cases outcome : t.add a with
  | error failure =>
    cases failure with
    | orderExhausted => exact .plain no_list no_show .nil
    | refused e =>
      exact .of_error no_list (fun shows => absurd shows no_show) (unbrokenError_of_refused rep unbroken outcome) _
  | ok result =>
    obtain ⟨receipt, t'⟩ := result
    obtain ⟨r', added, rep'⟩ := rep.added outcome
    have origin' := Roster.from_added origin unbroken added
    have whole := unbroken_confirmation unbroken
    have mark := starts_confirmation a
    cases added with
    | cluster _ _ =>
      have clusters := clustersOf rep' origin'
      simp only [affectedView, clustersView, clusters.listed]
      exact .clusterAdded asked.shape mark whole clusters
    | host _ known _ =>
      obtain ⟨rfl, given⟩ := asked
      obtain ⟨topology, view⟩ := topologyOf rep' origin' (mem_ids_change known fun e => rfl)
      simp only [affectedView, topologyView, view.shown]
      exact .addedToCluster (.inl given.shape) mark whole view
    | inst _ _ known _ =>
      obtain ⟨rfl, given⟩ := asked
      obtain ⟨topology, view⟩ := topologyOf rep' origin' (mem_ids_change known fun e => rfl)
      simp only [affectedView, topologyView, view.shown]
      exact .addedToCluster (.inr given.shape) mark whole view

private theorem clusterScreen {p : Parsed} (lists : p.shape = .clusterList) : Screen p t (clustersView t) := by
  have clusters := clustersOf rep origin
  rw [clustersView, clusters.listed]
  exact .clusters lists clusters

/-- A cluster is shown with all that it has, or it is reported as unknown. -/
theorem topologyScreen {p : Parsed} (unbroken : UnbrokenLine p) (shows : ShowsCluster p) :
    Screen p t (topologyView t p.clusterId) := by
  by_cases known : p.clusterId ∈ r.ids
  · obtain ⟨topology, view⟩ := topologyOf rep origin known
    rw [topologyView, view.shown]
    exact .topology shows view
  · rw [topologyView, refused_of_missing rep known]
    have missing : p.clusterId ∉ t.clusters.keys := fun there => known ((rep.mem_ids_iff _).2 there)
    have told : UnbrokenError (.clusterNotFound p.clusterId) := unbroken.clusterId
    exact .of_error shows.not_clusterList (fun _ => missing) told _

private theorem shownLines_screen {env : Surroundings} {p : Parsed} (unbroken : UnbrokenLine p) {request : Request}
    (ok : Request.ofParsed p = .ok request) (adds_nothing : addition? env request = none) :
    Screen p t (shownLines t request) := by
  have no_addition (found : ∃ a, addition? env request = some a ∧ Asked env p a) : False := by
    obtain ⟨a, adds, _⟩ := found
    rw [adds_nothing] at adds
    cases adds
  have plain {lines : List String} (no_list : p.shape ≠ .clusterList) (no_show : ¬ ShowsCluster p)
      (quiet : Quiet lines) : Screen p t lines := .plain no_list no_show quiet
  rw [Request.ofParsed] at ok
  cases shape : p.shape with
  | clusterAdd =>
    rw [shape] at ok
    exact absurd (asked_of_checkClusterAdd shape (eq_ok_of_rejecting ok)) no_addition
  | hostAdd =>
    rw [shape] at ok
    exact absurd (asked_of_checkHostAdd shape (eq_ok_of_rejecting ok)) no_addition
  | instanceAdd =>
    rw [shape] at ok
    exact absurd (asked_of_checkInstanceAdd shape (eq_ok_of_rejecting ok)) no_addition
  | clusterList =>
    rw [shape] at ok
    cases ok
    exact clusterScreen rep origin shape
  | clusterShow =>
    rw [shape] at ok
    cases ok
    exact topologyScreen rep origin unbroken (.inl shape)
  | hostList =>
    rw [shape] at ok
    cases ok
    exact topologyScreen rep origin unbroken (.inr (.inl shape))
  | instanceList =>
    rw [shape] at ok
    cases ok
    exact topologyScreen rep origin unbroken (.inr (.inr shape))
  | blank | exit =>
    rw [shape] at ok
    cases ok
    exact plain (by rw [shape]; decide) (by rw [ShowsCluster, shape]; decide) .nil
  | unknown =>
    rw [shape] at ok
    cases ok
    exact plain (by rw [shape]; decide) (by rw [ShowsCluster, shape]; decide) quiet_unknown
  | clusterShowNoId =>
    rw [shape] at ok
    cases ok
    exact plain (by rw [shape]; decide) (by rw [ShowsCluster, shape]; decide) (quiet_usage showUsage (by decide))
  | help | clusterAlone | clusterNoScope | hostNoVerb | instanceNoVerb | unknownScope =>
    rw [shape] at ok
    cases ok
    exact plain (by rw [shape]; decide) (by rw [ShowsCluster, shape]; decide) quiet_help

private theorem checkedReply_screen {env : Surroundings} (defaults : UnbrokenDefaults env) {p : Parsed}
    (unbroken : UnbrokenLine p) : Screen p (checkedReply env t p).tables (checkedReply env t p).lines := by
  rw [checkedReply]
  cases checked : Request.ofParsed p with
  | error rejection =>
    have adds : p.shape = .clusterAdd ∨ AddsToCluster p := by
      rw [Request.ofParsed] at checked
      cases shape : p.shape with
      | clusterAdd => exact .inl rfl
      | hostAdd => exact .inr (.inl shape)
      | instanceAdd => exact .inr (.inr shape)
      | _ =>
        rw [shape] at checked
        cases checked
    obtain ⟨no_list, no_show⟩ := not_view_of_adds adds
    have usage : Unbroken rejection.usage := by
      rw [Rejection.usage]
      cases rejection.command <;> decide
    exact .refused no_list (fun shows => absurd shows no_show) ((Starts.self _).append _)
      (.append (by decide) (unbroken_rejection unbroken checked)) (quiet_usage _ usage)
  | ok request =>
    simp only [requestReply]
    cases adds : addition? env request with
    | none => exact shownLines_screen rep origin unbroken checked adds
    | some a =>
      have asked := asked_of_ofParsed checked adds
      exact additionReply_screen rep origin asked (unbroken_of_asked defaults unbroken asked)

/-- The reply to a line is a screen of the contents after it. -/
theorem reply_screen {env : Surroundings} (defaults : UnbrokenDefaults env) {p : Parsed} (unbroken : UnbrokenLine p) :
    Screen p (reply env t p).tables (reply env t p).lines := by
  rw [reply]
  cases action : addAction? p.shape with
  | none => exact checkedReply_screen rep origin defaults unbroken
  | some name =>
    simp only [rep.clusterExists]
    cases known : r.clusterExists p.clusterId with
    | true => exact checkedReply_screen rep origin defaults unbroken
    | false =>
      have adds : AddsToCluster p := by
        cases shape : p.shape with
        | hostAdd => exact .inl shape
        | instanceAdd => exact .inr shape
        | _ =>
          rw [shape] at action
          cases action
      obtain ⟨no_list, no_show⟩ := not_view_of_adds (.inr adds)
      have told : UnbrokenError (.clusterNotFound p.clusterId) := unbroken.clusterId
      exact .of_error no_list (fun shows => absurd shows no_show) told _

end Replies

end ClusterRegister.Console
