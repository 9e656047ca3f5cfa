import ClusterRegister.Proofs.Screens

/-!
# Rows of screens

How the output of a reply can be read again: each report, and each row for a cluster, a host or an instance, is one
that the reply shows, and there are no others (`Screen.unforged`).
-/

namespace ClusterRegister.Console

open ClusterRegister.Line ClusterRegister.Register ClusterRegister.Text

/-- Whether an output shows the clusters: the line asks for them, or it adds one and this is confirmed. -/
def PrintsClusters (p : Parsed) (out : Bytes) : Prop :=
  p.shape = .clusterList ∨ p.shape = .clusterAdd ∧ rowsWith ["  [ok] "] out ≠ []

/-- Whether an output shows the topology of a cluster: the line asks for it and the cluster is known, or the line adds
to the cluster and this is confirmed. -/
def PrintsTopology (p : Parsed) (t : Tables) (out : Bytes) : Prop :=
  ShowsCluster p ∧ p.clusterId ∈ t.clusters.keys ∨ AddsToCluster p ∧ rowsWith ["  [ok] "] out ≠ []

/-- The rows of a topology: one for each host and for each instance, or the one that there are none of them. -/
structure RowsOf (topology : Topology) (out : Bytes) : Prop where
  hosts : rowsWith ["    - "] out = topology.hosts.map fun h => row (hostLine h)
  instances : rowsWith ["    master: ", "    slave:  "] out = topology.instances.map fun i => row (instanceLine i)
  emptiness : rowsWith ["  (no hosts or instances)"] out =
    if topology.hosts = [] ∧ topology.instances = [] then [row "  (no hosts or instances)"] else []

/-- An output without forged rows, where `t` are the contents after the line: it has one report at most, and the rows
of the clusters or of a topology are those of what it shows. -/
structure Unforged (p : Parsed) (t : Tables) (out : Bytes) : Prop where
  ended : out = [] ∨ out.getLast? = some 0x0A
  reports : (rowsWith ["  [ok] ", "  [error] "] out).length ≤ 1
  clusters : PrintsClusters p out → ∃ cs, t.listClusters = .ok cs ∧ cs.map (·.id) = t.order.values ∧
    rowsWith ["  cluster: "] out = cs.map fun c => row (clusterLine c)
  no_clusters : ¬ PrintsClusters p out → rowsWith ["  cluster: "] out = []
  topology : PrintsTopology p t out → ∃ topology, t.topology p.clusterId = .ok topology ∧ RowsOf topology out
  no_topology : ¬ PrintsTopology p t out → rowsWith ["    - "] out = [] ∧
    rowsWith ["    master: ", "    slave:  "] out = [] ∧ rowsWith ["  (no hosts or instances)"] out = []

/-- The lines that confirm an addition. -/
def okLines (lines : List String) : List String := lines.filter fun line => beginsWith ["  [ok] "] (row line)

private theorem okLines_of_no_report {lines : List String} (no_report : markedLines .report lines = []) :
    okLines lines = [] := by
  rw [okLines, List.filter_eq_nil_iff]
  intro line member confirms
  apply List.filter_eq_nil_iff.1 no_report line member
  rw [beginsWith, List.any_eq_true] at confirms ⊢
  obtain ⟨head, inside, begins⟩ := confirms
  rw [List.mem_singleton.1 inside] at begins
  exact ⟨"  [ok] ", .head _, begins⟩

private theorem okLines_of_ok {report : String} (ok : Starts "  [ok] " report) (lines : List String) :
    okLines (report :: lines) ≠ [] := by
  have begins : beginsWith ["  [ok] "] (row report) = true := by
    rw [beginsWith, List.any_eq_true]
    exact ⟨_, .head _, List.isPrefixOf_iff_prefix.2 (ok.append "\n")⟩
  rw [okLines, List.filter_cons, if_pos begins]
  exact List.cons_ne_nil _ _

private theorem okLines_of_error {report : String} (error : Starts "  [error] " report) {lines : List String}
    (quiet : Quiet lines) : okLines (report :: lines) = [] := by
  have apart : Apart "  [ok] " "  [error] " := by decide +kernel
  have no_ok : ¬ beginsWith ["  [ok] "] (row report) = true := by
    obtain ⟨rest, same⟩ := error.append "\n"
    rw [row, ← same, beginsWith, List.any_eq_true]
    rintro ⟨head, inside, begins⟩
    rw [List.mem_singleton.1 inside] at begins
    exact not_prefix_of_apart apart rest (List.isPrefixOf_iff_prefix.1 begins)
  have rest := okLines_of_no_report (quiet.markedLines .report)
  rw [okLines, List.filter_cons, if_neg no_ok]
  exact rest

private theorem topologyRows_emptiness (topology : Topology) :
    topologyRows topology .emptiness =
      if topology.hosts = [] ∧ topology.instances = [] then ["  (no hosts or instances)"] else [] := by
  rw [topologyRows, Topology.isEmpty]
  by_cases empty : topology.hosts = [] ∧ topology.instances = []
  · rw [if_pos empty, empty.1, empty.2]
    rfl
  · rw [if_neg empty, if_neg (by simpa using empty)]

private theorem markedLines_report {report : String} (marked : Marked (some .report) report) (m : Mark)
    (lines : List String) :
    markedLines m (report :: lines) = (if m = .report then [report] else []) ++ markedLines m lines := by
  have first : report :: lines = [report] ++ lines := rfl
  rw [first, markedLines_append, markedLines_one marked]
  cases m <;> rfl

theorem Starts.ok_marked {report : String} (ok : Starts "  [ok] " report) : Marked (some .report) report :=
  ok.marked (by decide +kernel)

theorem Starts.error_marked {report : String} (error : Starts "  [error] " report) : Marked (some .report) report :=
  error.marked (by decide +kernel)

namespace Screen

variable {p : Parsed} {t : Tables} {lines : List String} (screen : Screen p t lines)

include screen

theorem unbroken : ∀ line ∈ lines, Unbroken line := by
  cases screen with
  | plain _ _ quiet => exact quiet.unbroken
  | refused _ _ _ whole quiet => exact List.forall_mem_cons.2 ⟨whole, quiet.unbroken⟩
  | clusters _ view => exact unbroken_clusterLines view.unbroken
  | topology _ view => exact unbroken_topologyLines view.unbroken
  | clusterAdded _ _ whole view => exact List.forall_mem_cons.2 ⟨whole, unbroken_clusterLines view.unbroken⟩
  | addedToCluster _ _ whole view => exact List.forall_mem_cons.2 ⟨whole, unbroken_topologyLines view.unbroken⟩

theorem reports : (markedLines .report lines).length ≤ 1 := by
  cases screen with
  | plain _ _ quiet =>
    rw [quiet.markedLines]
    exact Nat.zero_le 1
  | refused _ _ error _ quiet =>
    rw [markedLines_report error.error_marked, quiet.markedLines]
    exact Nat.le_refl 1
  | clusters _ view =>
    rw [markedLines_clusterLines]
    exact Nat.zero_le 1
  | topology _ view =>
    rw [markedLines_topologyLines]
    exact Nat.zero_le 1
  | clusterAdded _ ok _ view =>
    rw [markedLines_report ok.ok_marked, markedLines_clusterLines]
    exact Nat.le_refl 1
  | addedToCluster _ ok _ view =>
    rw [markedLines_report ok.ok_marked, markedLines_topologyLines]
    exact Nat.le_refl 1

private theorem clusterRows :
    (p.shape = .clusterList ∨ p.shape = .clusterAdd ∧ okLines lines ≠ []) ∧
        (∃ cs, ClustersOf t cs ∧ markedLines .cluster lines = cs.map clusterLine) ∨
      ¬ (p.shape = .clusterList ∨ p.shape = .clusterAdd ∧ okLines lines ≠ []) ∧ markedLines .cluster lines = [] := by
  cases screen with
  | plain no_list _ quiet =>
    refine .inr ⟨?_, quiet.markedLines _⟩
    rintro (lists | ⟨_, ok⟩)
    · exact no_list lists
    · exact ok (okLines_of_no_report (quiet.markedLines _))
  | refused no_list _ error _ quiet =>
    refine .inr ⟨?_, ?_⟩
    · rintro (lists | ⟨_, ok⟩)
      · exact no_list lists
      · exact ok (okLines_of_error error quiet)
    · rw [markedLines_report error.error_marked, quiet.markedLines]
      rfl
  | clusters lists view =>
    refine .inl ⟨.inl lists, _, view, ?_⟩
    rw [markedLines_clusterLines, if_pos rfl]
  | topology shows view =>
    refine .inr ⟨?_, by rw [markedLines_topologyLines]; rfl⟩
    rintro (lists | ⟨adds, _⟩)
    · exact shows.not_clusterList lists
    · exact shows.not_clusterAdd adds
  | clusterAdded adds ok _ view =>
    refine .inl ⟨.inr ⟨adds, okLines_of_ok ok _⟩, _, view, ?_⟩
    rw [markedLines_report ok.ok_marked, markedLines_clusterLines, if_pos rfl]
    rfl
  | addedToCluster adds ok _ view =>
    refine .inr ⟨?_, by rw [markedLines_report ok.ok_marked, markedLines_topologyLines]; rfl⟩
    rintro (lists | ⟨others, _⟩)
    · exact adds.not_clusterList lists
    · exact adds.not_clusterAdd others

theorem topologyRows :
    (ShowsCluster p ∧ p.clusterId ∈ t.clusters.keys ∨ AddsToCluster p ∧ okLines lines ≠ []) ∧
        (∃ topology, TopologyOf t p.clusterId topology ∧
          ∀ m, m ≠ .report → markedLines m lines = Console.topologyRows topology m) ∨
      ¬ (ShowsCluster p ∧ p.clusterId ∈ t.clusters.keys ∨ AddsToCluster p ∧ okLines lines ≠ []) ∧
        ∀ m, m ≠ .report → m ≠ .cluster → markedLines m lines = [] := by
  cases screen with
  | plain _ no_show quiet =>
    refine .inr ⟨?_, fun m _ _ => quiet.markedLines m⟩
    rintro (⟨shows, _⟩ | ⟨_, ok⟩)
    · exact no_show shows
    · exact ok (okLines_of_no_report (quiet.markedLines _))
  | refused _ missing error _ quiet =>
    refine .inr ⟨?_, fun m no_report _ => ?_⟩
    · rintro (⟨shows, known⟩ | ⟨_, ok⟩)
      · exact missing shows known
      · exact ok (okLines_of_error error quiet)
    · rw [markedLines_report error.error_marked, quiet.markedLines,
        if_neg no_report]
      rfl
  | clusters lists view =>
    refine .inr ⟨?_, fun m _ no_cluster => by rw [markedLines_clusterLines, if_neg no_cluster]⟩
    rintro (⟨shows, _⟩ | ⟨adds, _⟩)
    · exact shows.not_clusterList lists
    · exact adds.not_clusterList lists
  | topology shows view =>
    exact .inl ⟨.inl ⟨shows, view.known⟩, _, view, fun m _ => markedLines_topologyLines m _⟩
  | clusterAdded adds ok _ view =>
    refine .inr ⟨?_, fun m no_report no_cluster => ?_⟩
    · rintro (⟨shows, _⟩ | ⟨others, _⟩)
      · exact shows.not_clusterAdd adds
      · exact others.not_clusterAdd adds
    · rw [markedLines_report ok.ok_marked, markedLines_clusterLines, if_neg no_report, if_neg no_cluster]
      rfl
  | addedToCluster adds ok _ view =>
    refine .inl ⟨.inr ⟨adds, okLines_of_ok ok _⟩, _, view, fun m no_report => ?_⟩
    rw [markedLines_report ok.ok_marked, markedLines_topologyLines, if_neg no_report]
    rfl

/-- The output of a screen has no forged rows. -/
theorem unforged : Unforged p t (Utf8.bytes (linesText lines)) := by
  have rows (m : Mark) : rowsWith m.heads (Utf8.bytes (linesText lines)) = (markedLines m lines).map row :=
    rowsWith_heads m screen.unbroken
  have confirmed : rowsWith ["  [ok] "] (Utf8.bytes (linesText lines)) ≠ [] ↔ okLines lines ≠ [] := by
    rw [rowsWith_linesText _ screen.unbroken, Ne, List.map_eq_nil_iff]
    rfl
  have ended := linesText_ended lines
  generalize Utf8.bytes (linesText lines) = out at rows confirmed ended ⊢
  have prints_clusters : PrintsClusters p out ↔
      p.shape = .clusterList ∨ p.shape = .clusterAdd ∧ okLines lines ≠ [] := by rw [PrintsClusters, confirmed]
  have prints_topology : PrintsTopology p t out ↔
      ShowsCluster p ∧ p.clusterId ∈ t.clusters.keys ∨ AddsToCluster p ∧ okLines lines ≠ [] := by
    rw [PrintsTopology, confirmed]
  have report_rows : rowsWith ["  [ok] ", "  [error] "] out = (markedLines .report lines).map row := rows .report
  have cluster_rows : rowsWith ["  cluster: "] out = (markedLines .cluster lines).map row := rows .cluster
  have host_rows : rowsWith ["    - "] out = (markedLines .host lines).map row := rows .host
  have instance_rows : rowsWith ["    master: ", "    slave:  "] out = (markedLines .inst lines).map row := rows .inst
  have emptiness_rows : rowsWith ["  (no hosts or instances)"] out = (markedLines .emptiness lines).map row :=
    rows .emptiness
  constructor
  case ended => exact ended
  case reports =>
    rw [report_rows, List.length_map]
    exact screen.reports
  case clusters =>
    intro prints
    rcases screen.clusterRows with ⟨_, cs, view, shown⟩ | ⟨silent, _⟩
    · refine ⟨cs, view.listed, view.ordered, ?_⟩
      rw [cluster_rows, shown, List.map_map, Function.comp_def]
    · exact absurd (prints_clusters.1 prints) silent
  case no_clusters =>
    intro silent
    rcases screen.clusterRows with ⟨prints, _⟩ | ⟨_, nothing⟩
    · exact absurd (prints_clusters.2 prints) silent
    · rw [cluster_rows, nothing, List.map_nil]
  case topology =>
    intro prints
    rcases screen.topologyRows with ⟨_, topology, view, shown⟩ | ⟨silent, _⟩
    · refine ⟨topology, view.shown, ?_, ?_, ?_⟩
      · rw [host_rows, shown .host (by decide), Console.topologyRows, List.map_map, Function.comp_def]
      · rw [instance_rows, shown .inst (by decide), Console.topologyRows, List.map_map, Function.comp_def]
      · rw [emptiness_rows, shown .emptiness (by decide), topologyRows_emptiness, apply_ite (List.map row),
          List.map_cons, List.map_nil]
    · exact absurd (prints_topology.1 prints) silent
  case no_topology =>
    intro silent
    rcases screen.topologyRows with ⟨prints, _⟩ | ⟨_, nothing⟩
    · exact absurd (prints_topology.2 prints) silent
    · refine ⟨?_, ?_, ?_⟩
      · rw [host_rows, nothing .host (by decide) (by decide), List.map_nil]
      · rw [instance_rows, nothing .inst (by decide) (by decide), List.map_nil]
      · rw [emptiness_rows, nothing .emptiness (by decide) (by decide), List.map_nil]

end Screen

end ClusterRegister.Console
