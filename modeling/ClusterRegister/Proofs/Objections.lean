import ClusterRegister.Proofs.Additions

/-!
# Objections

What may stand against an addition, in an order of precedence. On any contents, the first objection that
applies is the error of the addition, which then changes nothing, and an addition without objections is
accepted.
-/

namespace ClusterRegister.Register

open ClusterRegister.Record ClusterRegister.Text

/-- The objections against an addition, with their ranks: those of lower rank take precedence. -/
inductive Objection (t : Tables) : Addition → Nat → AddFailure → Prop
  | blankId {c : Cluster} : isBlankText c.id = true →
    Objection t (.cluster c) 0 (.refused (.invalidInput .blankClusterId))
  | duplicate {c : Cluster} : c.id ∈ t.clusters.keys →
    Objection t (.cluster c) 1 (.refused (.duplicateCluster c.id))
  | exhausted {c : Cluster} : Tables.lastNumber ∈ t.order.keys → Objection t (.cluster c) 2 .orderExhausted
  | blankIp {cluster : String} {h : Host} : isBlankText h.ip = true →
    Objection t (.host cluster h) 0 (.refused (.invalidInput .blankHostIp))
  | noClusterForHost {cluster : String} {h : Host} : cluster ∉ t.clusters.keys →
    Objection t (.host cluster h) 1 (.refused (.clusterNotFound cluster))
  | corruptHosts {cluster : String} {h : Host} {blob : Bytes} {reason : Json.Malformed} :
    t.hosts.get? cluster = some blob → decodeList (α := Host) blob = .error reason →
    Objection t (.host cluster h) 2 (.refused (.corrupted .hosts cluster reason))
  | blankHost {cluster : String} {i : Instance} : isBlankText i.host = true →
    Objection t (.inst cluster i) 0 (.refused (.invalidInput .blankInstanceHost))
  | zeroPort {cluster : String} {i : Instance} : i.port = 0 →
    Objection t (.inst cluster i) 1 (.refused (.invalidInput .zeroPort))
  | noClusterForInstance {cluster : String} {i : Instance} : cluster ∉ t.clusters.keys →
    Objection t (.inst cluster i) 2 (.refused (.clusterNotFound cluster))
  | corruptInstances {cluster : String} {i : Instance} {blob : Bytes} {reason : Json.Malformed} :
    t.instances.get? cluster = some blob → decodeList (α := Instance) blob = .error reason →
    Objection t (.inst cluster i) 3 (.refused (.corrupted .instances cluster reason))

/-- The error of the first objection that applies. -/
def FirstObjection (t : Tables) (a : Addition) (e : AddFailure) : Prop :=
  ∃ rank, Objection t a rank e ∧ ∀ lower < rank, ∀ other, ¬ Objection t a lower other

theorem addCluster_outcome (t : Tables) (c : Cluster) :
    (∃ e, FirstObjection t (.cluster c) e ∧ t.addCluster c = .error e) ∨
      ((∀ rank e, ¬ Objection t (.cluster c) rank e) ∧ ∃ n, t.nextNumber = some n ∧
        t.addCluster c = .ok { t.put .clusters c.id (encode c) with order := t.order.insert n c.id }) := by
  rw [Tables.addCluster]
  by_cases blank : isBlankText c.id = true
  · exact .inl ⟨_, ⟨0, .blankId blank, fun lower below => absurd below (Nat.not_lt_zero lower)⟩, if_pos blank⟩
  · rw [if_neg blank]
    rcases t.enter_outcome c with ⟨known, outcome⟩ | ⟨fresh, taken, outcome⟩ | ⟨fresh, left, n, number, outcome⟩
    · refine .inl ⟨_, ⟨1, .duplicate known, ?_⟩, by rw [outcome]; rfl⟩
      rintro lower below other objection
      cases objection with
      | blankId is_blank => exact blank is_blank
      | duplicate _ => omega
      | exhausted _ => omega
    · refine .inl ⟨_, ⟨2, .exhausted taken, ?_⟩, by rw [outcome]; rfl⟩
      rintro lower below other objection
      cases objection with
      | blankId is_blank => exact blank is_blank
      | duplicate known => exact fresh known
      | exhausted _ => omega
    · refine .inr ⟨?_, n, number, by rw [outcome]; rfl⟩
      rintro rank e objection
      cases objection with
      | blankId is_blank => exact blank is_blank
      | duplicate known => exact fresh known
      | exhausted taken => exact left taken

theorem addHost_outcome (t : Tables) (cluster : String) (h : Host) :
    (∃ e, FirstObjection t (.host cluster h) (.refused e) ∧ t.addHost cluster h = .error e) ∨
      ((∀ rank e, ¬ Objection t (.host cluster h) rank e) ∧ ∃ hs : List Host,
        t.readList .hosts cluster = .ok hs ∧
        t.addHost cluster h = .ok ({ h with id := h.ip, clusterId := cluster },
          t.put .hosts cluster (encodeList (hs ++ [{ h with id := h.ip, clusterId := cluster }])))) := by
  rw [Tables.addHost]
  by_cases blank : isBlankText h.ip = true
  · exact .inl ⟨_, ⟨0, .blankIp blank, fun lower below => absurd below (Nat.not_lt_zero lower)⟩, if_pos blank⟩
  · rw [if_neg blank]
    rcases t.append_outcome .hosts cluster { h with id := h.ip, clusterId := cluster } with
      ⟨unknown, outcome⟩ | ⟨known, blob, reason, found, corrupt, outcome⟩ | ⟨known, hs, list, outcome⟩
    · refine .inl ⟨_, ⟨1, .noClusterForHost unknown, ?_⟩, by simp only [outcome]; rfl⟩
      rintro lower below other objection
      cases objection with
      | blankIp is_blank => exact blank is_blank
      | noClusterForHost _ => omega
      | corruptHosts _ _ => omega
    · refine .inl ⟨_, ⟨2, .corruptHosts found corrupt, ?_⟩, by simp only [outcome]; rfl⟩
      rintro lower below other objection
      cases objection with
      | blankIp is_blank => exact blank is_blank
      | noClusterForHost unknown => exact unknown known
      | corruptHosts _ _ => omega
    · refine .inr ⟨?_, hs, list, by simp only [outcome]; rfl⟩
      rintro rank e objection
      cases objection with
      | blankIp is_blank => exact blank is_blank
      | noClusterForHost unknown => exact unknown known
      | corruptHosts found corrupt =>
        rw [Tables.decodes_of_readList list found] at corrupt
        cases corrupt

theorem addInstance_outcome (t : Tables) (cluster : String) (i : Instance) :
    (∃ e, FirstObjection t (.inst cluster i) (.refused e) ∧ t.addInstance cluster i = .error e) ∨
      ((∀ rank e, ¬ Objection t (.inst cluster i) rank e) ∧ ∃ is : List Instance,
        t.readList .instances cluster = .ok is ∧
        t.addInstance cluster i = .ok ({ i with id := i.addr, clusterId := cluster },
          t.put .instances cluster (encodeList (is ++ [{ i with id := i.addr, clusterId := cluster }])))) := by
  rw [Tables.addInstance]
  by_cases blank : isBlankText i.host = true
  · exact .inl ⟨_, ⟨0, .blankHost blank, fun lower below => absurd below (Nat.not_lt_zero lower)⟩, if_pos blank⟩
  rw [if_neg blank]
  by_cases zero : i.port = 0
  · refine .inl ⟨_, ⟨1, .zeroPort zero, ?_⟩, if_pos zero⟩
    rintro lower below other objection
    cases objection with
    | blankHost is_blank => exact blank is_blank
    | zeroPort _ => omega
    | noClusterForInstance _ => omega
    | corruptInstances _ _ => omega
  · rw [if_neg zero]
    rcases t.append_outcome .instances cluster { i with id := i.addr, clusterId := cluster } with
      ⟨unknown, outcome⟩ | ⟨known, blob, reason, found, corrupt, outcome⟩ | ⟨known, is, list, outcome⟩
    · refine .inl ⟨_, ⟨2, .noClusterForInstance unknown, ?_⟩, by simp only [outcome]; rfl⟩
      rintro lower below other objection
      cases objection with
      | blankHost is_blank => exact blank is_blank
      | zeroPort is_zero => exact zero is_zero
      | noClusterForInstance _ => omega
      | corruptInstances _ _ => omega
    · refine .inl ⟨_, ⟨3, .corruptInstances found corrupt, ?_⟩, by simp only [outcome]; rfl⟩
      rintro lower below other objection
      cases objection with
      | blankHost is_blank => exact blank is_blank
      | zeroPort is_zero => exact zero is_zero
      | noClusterForInstance unknown => exact unknown known
      | corruptInstances _ _ => omega
    · refine .inr ⟨?_, is, list, by simp only [outcome]; rfl⟩
      rintro rank e objection
      cases objection with
      | blankHost is_blank => exact blank is_blank
      | zeroPort is_zero => exact zero is_zero
      | noClusterForInstance unknown => exact unknown known
      | corruptInstances found corrupt =>
        rw [Tables.decodes_of_readList list found] at corrupt
        cases corrupt

/-- An addition has a first objection, which is its error, or it has none and is accepted. -/
theorem add_outcome (t : Tables) (a : Addition) :
    (∃ e, FirstObjection t a e ∧ t.add a = .error e) ∨
      ((∀ rank e, ¬ Objection t a rank e) ∧ ∃ receipt t', t.add a = .ok (receipt, t')) := by
  cases a with
  | cluster c =>
    rcases addCluster_outcome t c with ⟨e, first, refused⟩ | ⟨no_objection, n, _, accepted⟩
    · exact .inl ⟨e, first, by rw [Tables.add, refused]; rfl⟩
    · exact .inr ⟨no_objection, _, _, by rw [Tables.add, accepted]; rfl⟩
  | host cluster h =>
    rcases addHost_outcome t cluster h with ⟨e, first, refused⟩ | ⟨no_objection, hs, _, accepted⟩
    · exact .inl ⟨.refused e, first, by rw [Tables.add, refused]⟩
    · exact .inr ⟨no_objection, _, _, by rw [Tables.add, accepted]⟩
  | inst cluster i =>
    rcases addInstance_outcome t cluster i with ⟨e, first, refused⟩ | ⟨no_objection, is, _, accepted⟩
    · exact .inl ⟨.refused e, first, by rw [Tables.add, refused]⟩
    · exact .inr ⟨no_objection, _, _, by rw [Tables.add, accepted]⟩

theorem Objection.unique {t : Tables} {a : Addition} {rank : Nat} {e e' : AddFailure}
    (one : Objection t a rank e) (other : Objection t a rank e') : e = e' := by
  cases one <;> cases other <;> try rfl
  case corruptHosts.corruptHosts found corrupt _ _ corrupt' found' =>
    rw [found] at found'
    cases found'
    rw [corrupt] at corrupt'
    cases corrupt'
    rfl
  case corruptInstances.corruptInstances found corrupt _ _ corrupt' found' =>
    rw [found] at found'
    cases found'
    rw [corrupt] at corrupt'
    cases corrupt'
    rfl

/-- What comes first is one thing if there is one thing at each rank. -/
theorem first_unique {α : Type} {R : Nat → α → Prop} (unique : ∀ {rank e e'}, R rank e → R rank e' → e = e') {e e' : α}
    (one : ∃ rank, R rank e ∧ ∀ lower < rank, ∀ other, ¬ R lower other)
    (other : ∃ rank, R rank e' ∧ ∀ lower < rank, ∀ other, ¬ R lower other) : e = e' := by
  obtain ⟨rank, here, first⟩ := one
  obtain ⟨rank', here', first'⟩ := other
  rcases Nat.lt_trichotomy rank rank' with below | same | above
  · exact absurd here (first' rank below e)
  · subst same
    exact unique here here'
  · exact absurd here' (first rank' above e')

theorem FirstObjection.unique {t : Tables} {a : Addition} {e e' : AddFailure} (one : FirstObjection t a e)
    (other : FirstObjection t a e') : e = e' :=
  first_unique (R := Objection t a) Objection.unique one other

/-- On any contents, an addition fails with its first objection and then changes nothing; without
objections it succeeds. -/
theorem addition_atomic (t : Tables) (a : Addition) :
    (∀ e, (a.call t).1 = .error e ↔ FirstObjection t a e) ∧
      ((∃ receipt, (a.call t).1 = .ok receipt) ↔ ∀ rank e, ¬ Objection t a rank e) ∧
      (∀ e, (a.call t).1 = .error e → (a.call t).2 = t) := by
  rcases add_outcome t a with ⟨e, first, refused⟩ | ⟨no_objection, receipt, t', accepted⟩
  · have answer : a.call t = (.error e, t) := by rw [Addition.call, refused]
    rw [answer]
    refine ⟨fun e' => ⟨?_, ?_⟩, ⟨?_, ?_⟩, fun _ _ => rfl⟩
    · intro same
      cases same
      exact first
    · intro other
      rw [first.unique other]
    · rintro ⟨receipt, accepted⟩
      cases accepted
    · intro no_objection
      obtain ⟨rank, objection, _⟩ := first
      exact absurd objection (no_objection rank e)
  · have answer : a.call t = (.ok receipt, t') := by rw [Addition.call, accepted]
    rw [answer]
    refine ⟨fun e => ⟨?_, ?_⟩, ⟨fun _ => no_objection, fun _ => ⟨receipt, rfl⟩⟩, ?_⟩
    · intro failed
      cases failed
    · rintro ⟨rank, objection, _⟩
      exact absurd objection (no_objection rank e)
    · intro e failed
      cases failed

end ClusterRegister.Register
