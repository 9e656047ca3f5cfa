import ClusterRegister.Proofs.Dialogues
import ClusterRegister.Proofs.RecordText

/-!
# Prechecks

Before the flags of an added host or instance are looked at, the record of its cluster is read. A cluster that is
missing or whose record is damaged is reported, and nothing else happens; a cluster that can be read makes no
difference, nor is it read for any other line. Without the check, a host or an instance of a missing cluster is
refused all the same, unless something is wrong with it that is reported first.

The main statement is `cluster_precheck`.
-/

namespace ClusterRegister.Register

open ClusterRegister.Record ClusterRegister.Text

theorem Tables.get?_eq_none {t : Tables} {id : String} (missing : id ∉ t.clusters.keys) :
    t.clusters.get? id = none := by
  cases found : t.clusters.get? id with
  | none => rfl
  | some blob => exact absurd (Table.mem_keys_iff.2 (Table.contains_iff.2 ⟨blob, found⟩)) missing

theorem Tables.clusterExists_missing {t : Tables} {id : String} (missing : id ∉ t.clusters.keys) :
    t.clusterExists id = .ok false := by
  rw [clusterExists, getCluster, get?_eq_none missing]

theorem Tables.clusterExists_damaged {t : Tables} {id : String} {blob : Bytes} {reason : Json.Malformed}
    (found : t.clusters.get? id = some blob) (damaged : decode (α := Cluster) blob = .error reason) :
    t.clusterExists id = .error (.corrupted .clusters id reason) := by
  rw [clusterExists, getCluster, found]
  simp only [damaged, interpret]

theorem Tables.clusterExists_sound {t : Tables} {id : String} {blob : Bytes} {c : Cluster}
    (found : t.clusters.get? id = some blob) (sound : decode blob = .ok c) : t.clusterExists id = .ok true := by
  rw [clusterExists, getCluster, found]
  simp only [sound, interpret]

theorem Tables.addHost_missing {t : Tables} {cluster : String} (missing : cluster ∉ t.clusters.keys) (h : Host) :
    t.addHost cluster h =
      .error (if isBlankText h.ip then .invalidInput .blankHostIp else .clusterNotFound cluster) := by
  rw [addHost]
  by_cases blank : isBlankText h.ip = true
  · rw [if_pos blank, if_pos blank]
  · rw [if_neg blank, if_neg blank]
    rcases t.append_outcome .hosts cluster { h with id := h.ip, clusterId := cluster } with
      ⟨_, outcome⟩ | ⟨known, _⟩ | ⟨known, _⟩
    · simp only [outcome]
      rfl
    · exact absurd known missing
    · exact absurd known missing

theorem Tables.addInstance_missing {t : Tables} {cluster : String} (missing : cluster ∉ t.clusters.keys)
    (i : Instance) :
    t.addInstance cluster i =
      .error (if isBlankText i.host then .invalidInput .blankInstanceHost
        else if i.port = 0 then .invalidInput .zeroPort else .clusterNotFound cluster) := by
  rw [addInstance]
  by_cases blank : isBlankText i.host = true
  · rw [if_pos blank, if_pos blank]
  rw [if_neg blank, if_neg blank]
  by_cases zero : i.port = 0
  · rw [if_pos zero, if_pos zero]
  · rw [if_neg zero, if_neg zero]
    rcases t.append_outcome .instances cluster { i with id := i.addr, clusterId := cluster } with
      ⟨_, outcome⟩ | ⟨known, _⟩ | ⟨known, _⟩
    · simp only [outcome]
      rfl
    · exact absurd known missing
    · exact absurd known missing

end ClusterRegister.Register

namespace ClusterRegister.Console

open ClusterRegister.Line ClusterRegister.Record ClusterRegister.Register ClusterRegister.Text

private theorem reportLine_clusterNotFound (action id : String) :
    reportLine action (.clusterNotFound id) = "  [error] cluster not found: " ++ id := by
  have words : "  [error] " ++ "cluster not found: " = "  [error] cluster not found: " := by
    simp only [String.reduceAppend]
  rw [← words, String.append_assoc]
  rfl

private theorem reportLine_damagedCluster (action id : String) (reason : Json.Malformed) :
    reportLine action (.corrupted .clusters id reason) =
      "  [error] " ++ action ++ " failed: corrupted record in table 'clusters' at key '" ++ id ++ "': " ++
        reason.message := by
  have words : " failed: " ++ ("corrupted record in table '" ++ ("clusters" ++ "' at key '")) =
      " failed: corrupted record in table 'clusters' at key '" := by simp only [String.reduceAppend]
  have report : reportLine action (.corrupted .clusters id reason) =
      "  [error] " ++ action ++ " failed: " ++
        ("corrupted record in table '" ++ "clusters" ++ "' at key '" ++ id ++ "': " ++ reason.message) := rfl
  rw [report, ← words]
  simp only [String.append_assoc]

private theorem line_of_blankHostIp :
    reportLine "add host" (.invalidInput .blankHostIp) = "  [error] invalid input: host ip must not be empty" := by
  decide +kernel

private theorem line_of_blankInstanceHost :
    reportLine "add instance" (.invalidInput .blankInstanceHost) =
      "  [error] invalid input: instance host must not be empty" := by decide +kernel

private theorem line_of_zeroPort :
    reportLine "add instance" (.invalidInput .zeroPort) = "  [error] invalid input: instance port must be positive" := by
  decide +kernel

/-- On contents `t`, an action shows lines and goes on; on any sink, the contents stay as they are. -/
structure ShowsOnly (act : Shell Flow) (t : Tables) (lines : List String) : Prop where
  output : act.on ⟨t, .unlimited⟩ = (.ok .goOn, ⟨t, ⟨(Utf8.bytes (linesText lines)).toArray, none, none⟩⟩)
  untouched : ∀ sink, (act.on ⟨t, sink⟩).2.tables = t

theorem Replies.showsOnly {act : Shell Flow} {t : Tables} {lines : List String}
    (replies : Replies act t (.shown t lines)) :
    ShowsOnly act t lines := by
  constructor
  case output => exact replies.on_unlimited
  case untouched =>
    intro sink
    rw [replies.on_sink]
    rfl

/-- A line is validated and then either run or rejected with its usage. -/
structure JustValidated (env : Surroundings) (t : Tables) (p : Parsed) : Prop where
  runs : ∀ request, Request.ofParsed p = .ok request →
    ∀ sink, (execute env p).on ⟨t, sink⟩ = (run env request).on ⟨t, sink⟩
  rejects : ∀ rejection, Request.ofParsed p = .error rejection →
    ShowsOnly (execute env p) t ["  [error] " ++ rejection.message, "  usage: " ++ rejection.usage]

private theorem justValidated_of_replies {env : Surroundings} {t : Tables} {p : Parsed}
    (replies : Replies (execute env p) t (checkedReply env t p)) : JustValidated env t p := by
  constructor
  case runs =>
    intro request valid sink
    rw [checkedReply, valid] at replies
    rw [replies.on_sink, (run_replies env t request).on_sink]
  case rejects =>
    intro rejection invalid
    rw [checkedReply, invalid] at replies
    exact replies.showsOnly

/-- A line that adds a host or an instance, and what messages call the action. -/
def AddsMachine (p : Parsed) (action : String) : Prop :=
  p.shape = .hostAdd ∧ action = "add host" ∨ p.shape = .instanceAdd ∧ action = "add instance"

theorem AddsMachine.named {p : Parsed} {action : String} (adds : AddsMachine p action) :
    addAction? p.shape = some action := by
  rcases adds with ⟨shape, rfl⟩ | ⟨shape, rfl⟩
  · rw [shape]
    rfl
  · rw [shape]
    rfl

/-- What the cluster of a line decides before its flags are looked at. -/
structure Prechecked (env : Surroundings) (t : Tables) (p : Parsed) (action : String) : Prop where
  missing : p.clusterId ∉ t.clusters.keys →
    ShowsOnly (execute env p) t ["  [error] cluster not found: " ++ p.clusterId]
  damaged : ∀ blob reason, t.clusters.get? p.clusterId = some blob → decode (α := Cluster) blob = .error reason →
    ShowsOnly (execute env p) t
      ["  [error] " ++ action ++ " failed: corrupted record in table 'clusters' at key '" ++ p.clusterId ++ "': " ++
        reason.message]
  sound : ∀ blob c, t.clusters.get? p.clusterId = some blob → decode (α := Cluster) blob = .ok c →
    JustValidated env t p

theorem AddsMachine.prechecked {p : Parsed} {action : String} (adds : AddsMachine p action) (env : Surroundings)
    (t : Tables) : Prechecked env t p action := by
  have replies := execute_replies env t p
  rw [reply, adds.named] at replies
  constructor
  case missing =>
    intro missing
    simp only [Tables.clusterExists_missing missing, reportLine_clusterNotFound] at replies
    exact replies.showsOnly
  case damaged =>
    intro blob reason found damaged
    simp only [Tables.clusterExists_damaged found damaged, reportLine_damagedCluster] at replies
    exact replies.showsOnly
  case sound =>
    intro blob c found sound
    simp only [Tables.clusterExists_sound found sound] at replies
    exact justValidated_of_replies replies

private theorem justValidated_of_addAction? {env : Surroundings} {t : Tables} {p : Parsed}
    (other : addAction? p.shape = none) :
    JustValidated env t p := by
  have replies := execute_replies env t p
  rw [reply, other] at replies
  exact justValidated_of_replies replies

/-- What checked commands show that add to a missing cluster and are run without the check. -/
structure RefusedUnchecked (env : Surroundings) (t : Tables) (cluster : String) : Prop where
  host : ∀ ip sshUser sshPort,
    ShowsOnly (run env (.hostAdd cluster ip sshUser sshPort)) t
      [if isBlankText ip then "  [error] invalid input: host ip must not be empty"
        else "  [error] cluster not found: " ++ cluster]
  inst : ∀ host port role master,
    ShowsOnly (run env (.instanceAdd cluster host port role master)) t
      [if isBlankText host then "  [error] invalid input: instance host must not be empty"
        else if port = 0 then "  [error] invalid input: instance port must be positive"
        else "  [error] cluster not found: " ++ cluster]

private theorem showsOnly_of_refused {env : Surroundings} {t : Tables} {request : Request} {a : Addition} {e : Error}
    (adds : addition? env request = some a) (refused : t.add a = .error (.refused e)) :
    ShowsOnly (run env request) t [reportLine (actionName a) e] := by
  have replies := run_replies env t request
  have reported : requestReply env t request = .shown t [reportLine (actionName a) e] := by
    simp only [requestReply, adds, additionReply, refused]
    rfl
  rw [reported] at replies
  exact replies.showsOnly

private theorem host_refused {env : Surroundings} {t : Tables} {cluster ip : String} {sshUser : Option String}
    {sshPort : Option UInt16} {e : Error}
    (refused : ∀ h : Host, h.ip = ip → t.addHost cluster h = .error e) :
    ShowsOnly (run env (.hostAdd cluster ip sshUser sshPort)) t [reportLine "add host" e] := by
  have adds : addition? env (.hostAdd cluster ip sshUser sshPort) = some (.host cluster _) := rfl
  have shown := showsOnly_of_refused adds (by rw [Tables.add, refused _ rfl])
  exact shown

private theorem instance_refused {env : Surroundings} {t : Tables} {cluster host : String} {port : UInt16} {role : Role}
    {master : Option String} {e : Error}
    (refused : ∀ i : Instance, i.host = host → i.port = port → t.addInstance cluster i = .error e) :
    ShowsOnly (run env (.instanceAdd cluster host port role master)) t [reportLine "add instance" e] := by
  have adds : addition? env (.instanceAdd cluster host port role master) = some (.inst cluster _) := rfl
  have shown := showsOnly_of_refused adds (by rw [Tables.add, refused _ rfl rfl])
  exact shown

private theorem refusedUnchecked (env : Surroundings) {t : Tables} {cluster : String}
    (missing : cluster ∉ t.clusters.keys) :
    RefusedUnchecked env t cluster := by
  constructor
  case host =>
    intro ip sshUser sshPort
    by_cases blank : isBlankText ip = true
    · rw [if_pos blank, ← line_of_blankHostIp]
      refine host_refused fun h same => ?_
      rw [Tables.addHost_missing missing, same, if_pos blank]
    · rw [if_neg blank, ← reportLine_clusterNotFound "add host"]
      refine host_refused fun h same => ?_
      rw [Tables.addHost_missing missing, same, if_neg blank]
  case inst =>
    intro host port role master
    by_cases blank : isBlankText host = true
    · rw [if_pos blank, ← line_of_blankInstanceHost]
      refine instance_refused fun i same _ => ?_
      rw [Tables.addInstance_missing missing, same, if_pos blank]
    rw [if_neg blank]
    by_cases zero : port = 0
    · rw [if_pos zero, ← line_of_zeroPort]
      refine instance_refused fun i same same_port => ?_
      rw [Tables.addInstance_missing missing, same, if_neg blank, same_port, if_pos zero]
    · rw [if_neg zero, ← reportLine_clusterNotFound "add instance"]
      refine instance_refused fun i same same_port => ?_
      rw [Tables.addInstance_missing missing, same, if_neg blank, same_port, if_neg zero]

/-- A line that adds a host or an instance reports a cluster that is missing or damaged before anything that is wrong
with its flags, and leaves the contents as they are; where the cluster can be read, and for every other line whatever
the contents, the line is validated and then run or rejected. What is added to a missing cluster is refused without
the check as well, and by the same report if nothing is wrong with it otherwise. -/
theorem cluster_precheck (env : Surroundings) (t : Tables) :
    (∀ p action, AddsMachine p action → Prechecked env t p action) ∧
      (∀ p : Parsed, p.shape ≠ .hostAdd → p.shape ≠ .instanceAdd → JustValidated env t p) ∧
      ∀ cluster, cluster ∉ t.clusters.keys → RefusedUnchecked env t cluster := by
  refine ⟨?machines, ?others, ?unchecked⟩
  case machines => exact fun p action adds => adds.prechecked env t
  case others =>
    intro p no_host no_instance
    apply justValidated_of_addAction?
    cases shape : p.shape with
    | hostAdd => exact absurd shape no_host
    | instanceAdd => exact absurd shape no_instance
    | _ => rfl
  case unchecked => exact fun cluster missing => refusedUnchecked env missing

/-- A host without an address, for a cluster that is missing, for one whose record is damaged, and for one that can be
read: only the last of them is told what flag it lacks. -/
theorem precheck_before_flags :
    let env : Surroundings := ⟨"w", "root", 22, .epoch⟩
    let c : Cluster := ⟨"a", "w", .epoch⟩
    let t : Tables := (Tables.empty.put .clusters "b" (Utf8.bytes "x")).put .clusters c.id (encode c)
    let added (cluster : String) := execute env ⟨.hostAdd, cluster, .empty⟩
    ShowsOnly (added "c") t ["  [error] cluster not found: c"] ∧
      ShowsOnly (added "b") t
        ["  [error] add host failed: corrupted record in table 'clusters' at key 'b': expected value at line 1 column 1"] ∧
      ShowsOnly (added "a") t
        ["  [error] missing required flag --ip",
          "  usage: cluster <cluster_id> host add --ip=<ip> [--ssh-user=root] [--ssh-port=22]"] := by
  intro env c t added
  have prechecked (cluster : String) : Prechecked env t ⟨.hostAdd, cluster, .empty⟩ "add host" :=
    (cluster_precheck env t).1 _ _ (.inl ⟨rfl, rfl⟩)
  refine ⟨(prechecked "c").missing (by decide +kernel), ?damaged, ?sound⟩
  case damaged =>
    have reported := (prechecked "b").damaged (Utf8.bytes "x") ⟨.expectedValue, 1, 1⟩ (by decide +kernel) rfl
    have line : "  [error] " ++ "add host" ++ " failed: corrupted record in table 'clusters' at key '" ++ "b" ++ "': " ++
        (⟨.expectedValue, 1, 1⟩ : Json.Malformed).message =
        "  [error] add host failed: corrupted record in table 'clusters' at key 'b': expected value at line 1 column 1" := by
      decide +kernel
    rwa [line] at reported
  case sound =>
    have validated := (prechecked "a").sound (encode c) c (by decide +kernel) (decode_encode c)
    exact validated.rejects ⟨.hostAdd, .missing "ip"⟩ rfl

end ClusterRegister.Console
