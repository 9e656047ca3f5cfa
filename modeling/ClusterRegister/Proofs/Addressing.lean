import ClusterRegister.Proofs.Naming
import ClusterRegister.Proofs.Origins
import ClusterRegister.Proofs.Retention

/-!
# Addressing clusters

What operators can name, they can address: a name between quote marks is read back as it is, no line is understood with
a quote mark in it, and so every cluster that a text command adds can be shown by its id from then on
(`named_clusters_addressable`).
-/

namespace ClusterRegister.Register

open ClusterRegister.Console ClusterRegister.Files ClusterRegister.Line

/-- A cluster that operators can address: its id can stand between quote marks in lines, and the line that names it
shows its topology. -/
structure Addressable (t : Tables) (id : String) : Prop where
  nonempty : id ≠ ""
  unquoted : Unquoted id.toList
  readsBack : ∀ mark, isQuote mark = true → ReadsBack mark id
  shown : ∃ topology, t.topology id = .ok topology ∧ topology.cluster.id = id ∧
    ∀ env mark, isQuote mark = true →
      (executeLine env ("cluster show " ++ quoted mark id)).on ⟨t, .unlimited⟩ =
        (.ok .goOn, ⟨t, ⟨(Utf8.bytes (linesText (topologyLines topology))).toArray, none, none⟩⟩)

private theorem show_on_unlimited (env : Surroundings) {t : Tables} {id : String} {topology : Topology}
    (found : t.topology id = .ok topology) {line : String} (shows : Parsed.ofLine line = .addressed .clusterShow id) :
    (executeLine env line).on ⟨t, .unlimited⟩ =
      (.ok .goOn, ⟨t, ⟨(Utf8.bytes (linesText (topologyLines topology))).toArray, none, none⟩⟩) := by
  have replied := (execute_replies env t (.addressed .clusterShow id)).on_unlimited
  have replies : reply env t (.addressed .clusterShow id) = ⟨t, topologyView t id, .ok .goOn⟩ := rfl
  have view : topologyView t id = topologyLines topology := by rw [topologyView, found, viewLines]
  rw [replies, view] at replied
  rwa [executeLine, shows]

/-- A cluster whose id has no quote mark and is not empty can be addressed wherever there is one. -/
theorem Represents.addressable {r : Roster} {t : Tables} (rep : Represents r t) {id : String} (there : id ∈ r.ids)
    (nonempty : id ≠ "") (unquoted : Unquoted id.toList) : Addressable t id := by
  have readsBack (mark : Char) (quote : isQuote mark = true) : ReadsBack mark id :=
    readsBack_quoted quote nonempty unquoted
  cases found : r.under? id with
  | none => exact absurd there (Roster.under?_eq_none_iff.1 found)
  | some e =>
    have topology : t.topology id = .ok ⟨e.cluster.carried, e.hosts, e.instances⟩ := by
      rw [rep.topology, Roster.topology, found]
      rfl
    refine ⟨nonempty, unquoted, readsBack, _, topology, Roster.id_of_under? found, fun env mark quote => ?_⟩
    exact show_on_unlimited env topology (readsBack mark quote).clusterShow

theorem Roster.Added.mem_ids {r r' : Roster} {a : Addition} {receipt : Receipt} (added : r.Added a receipt r')
    {id : String} (there : id ∈ r'.ids) : id ∈ r.ids ∨ ∃ c, a = .cluster c ∧ c.id = id := by
  cases added with
  | @cluster c _ _ =>
    rw [Roster.ids_append] at there
    rcases List.mem_append.1 there with old | new
    · exact .inl old
    · exact .inr ⟨c, rfl, (List.mem_singleton.1 new).symm⟩
  | @host cluster _ h _ _ _ =>
    have keeps (e : RosterEntry) : (e.addHost h).cluster = e.cluster := rfl
    rw [Roster.ids_change keeps] at there
    exact .inl there
  | @inst cluster _ i _ _ _ _ =>
    have keeps (e : RosterEntry) : (e.addInstance i).cluster = e.cluster := rfl
    rw [Roster.ids_change keeps] at there
    exact .inl there

/-- A roster whose ids are those of another one, or can be named. -/
def NewIdsNamed (before r : Roster) : Prop := ∀ id ∈ r.ids, id ∈ before.ids ∨ (id ≠ "" ∧ Unquoted id.toList)

theorem NewIdsNamed.added {env : Nat → Surroundings} {lines : List String} {before r r' : Roster} {a : Addition}
    {receipt : Receipt} (named : NewIdsNamed before r) (asked : AskedBy env lines a) (added : r.Added a receipt r') :
    NewIdsNamed before r' := by
  intro id there
  rcases added.mem_ids there with old | ⟨cluster, rfl, rfl⟩
  · exact named id old
  · obtain ⟨_, line, _, given⟩ := asked
    exact .inr (Parsed.flag_value given.id)

/-- The id of a cluster that a text command adds is not empty and has no quote mark. -/
theorem Represents.new_named {r : Roster} {t : Tables} (rep : Represents r t) (c : TextCommand)
    (env : Nat → Surroundings) (sink : Sink) {id : String} (new : id ∉ t.clusters.keys)
    (there : id ∈ ((c.under env).act.on ⟨t, sink⟩).2.tables.clusters.keys) : id ≠ "" ∧ Unquoted id.toList := by
  have old_ids : NewIdsNamed r r := fun _ old => .inl old
  have accepted := ((c.under env).adds ⟨t, sink⟩).accepted
  obtain ⟨r', rep', named⟩ := rep.keeps NewIdsNamed.added old_ids accepted fun _ => TextCommand.asked_of_mem
  rcases named id ((rep'.mem_ids_iff id).2 there) with old | new_name
  · exact absurd ((rep.mem_ids_iff id).1 old) new
  · exact new_name

/-- A name without quote marks is read back from between quote marks; what a line is understood as has none; and after
any run on a store that was opened empty, a cluster that a text command adds can be addressed, whatever is done then. -/
theorem named_clusters_addressable :
    (∀ mark name, isQuote mark = true → name ≠ "" → Unquoted name.toList → ReadsBack mark name) ∧
      (∀ line, (Parsed.ofLine line).WithoutQuotes) ∧
      ∀ before tree path place, Tree.openStore before path = (.ok (place, .empty), tree) →
        ∀ (ops : List Operation) (c : TextCommand) (env : Nat → Surroundings) (sink : Sink),
          let s := Store.run ⟨tree, path, place, .empty⟩ ops
          let s' := (s.perform (.command (c.under env) sink)).2
          ∀ id ∈ s'.tables.clusters.keys, id ∉ s.tables.clusters.keys →
            ∀ later : List Operation, Addressable (s'.run later).tables id := by
  refine ⟨fun mark name => readsBack_quoted, Parsed.withoutQuotes_ofLine, ?_⟩
  intro before tree path place opened ops c env sink s s' id there new later
  obtain ⟨accepted, is_open⟩ := run_accepts (s := ⟨tree, path, place, .empty⟩) (.of_openStore opened) ops
  obtain ⟨r, rep, sound, _⟩ := Represents.empty.accepts Roster.sound_nil accepted
  obtain ⟨nonempty, unquoted⟩ := rep.new_named c env sink new there
  have performed := perform_follows is_open (.command (c.under env) sink)
  obtain ⟨went_on, _⟩ := run_accepts performed.is_open later
  obtain ⟨r', rep', _⟩ := rep.accepts sound (performed.accepted.append went_on)
  have still_there := (Keeps.accepts went_on).mem_keys there
  exact rep'.addressable ((rep'.mem_ids_iff id).2 still_there) nonempty unquoted

/-- On a new store, a line adds a cluster whose name starts with a space and has an equals sign and a tab. It can be
addressed after the store was closed and opened again. -/
theorem spaced_name_addressable :
    let add := TextCommand.line "cluster add --id=\" add =\t-\""
    let s' := ((newStore.run []).perform (.command (add.under fun _ => ⟨"w", "u", 22, .epoch⟩) .unlimited)).2
    Addressable (s'.run [.call .reopen]).tables " add =\t-" ∧ ReadsBack '\'' " add =\t-" := by
  obtain ⟨reads_back, _, created⟩ := named_clusters_addressable
  have addressable := created .fresh newStore.tree "r.db" ["work", "r.db"] newStore_opened []
    (.line "cluster add --id=\" add =\t-\"") (fun _ => ⟨"w", "u", 22, .epoch⟩) .unlimited " add =\t-" (by decide +kernel)
    List.not_mem_nil [.call .reopen]
  exact ⟨addressable, reads_back '\'' " add =\t-" (by decide) (by decide) (by decide)⟩

end ClusterRegister.Register
