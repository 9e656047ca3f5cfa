import ClusterRegister.Proofs.Outcomes
import ClusterRegister.Proofs.Replies

/-!
# Requests

What a line asks to be added: the record that its flags give, where an omitted or empty flag leaves the value to
the defaults. A line that is checked successfully adds just that.
-/

namespace ClusterRegister.Console

open ClusterRegister.Line ClusterRegister.Register ClusterRegister.Text

/-- A cluster as the flags of a line give it. -/
structure ClusterGiven (env : Surroundings) (p : Parsed) (c : Cluster) : Prop where
  shape : p.shape = .clusterAdd
  id : p.flag "id" = some c.id
  workerAddr : c.workerAddr = (p.flag "listen").getD env.workerAddr
  createdAt : c.createdAt = env.now

/-- A host as the flags of a line give it. -/
structure HostGiven (env : Surroundings) (p : Parsed) (h : Host) : Prop where
  shape : p.shape = .hostAdd
  ip : p.flag "ip" = some h.ip
  sshUser : h.sshUser = (p.flag "ssh-user").getD env.sshUser
  sshPort : ∀ text, p.flag "ssh-port" = some text → port? (trim text.toList) = some h.sshPort
  sshPort_default : p.flag "ssh-port" = none → h.sshPort = env.sshPort

/-- An instance as the flags of a line give it. -/
structure InstanceGiven (p : Parsed) (i : Instance) : Prop where
  shape : p.shape = .instanceAdd
  host : p.flag "host" = some i.host
  port : ∃ text, p.flag "port" = some text ∧ port? (trim text.toList) = some i.port
  role : ∀ name, p.flag "role" = some name → asciiLower name = i.role.name
  role_default : p.flag "role" = none → i.role = .slave
  masterAddr : i.masterAddr = (p.flag "master").getD ""

/-- An addition as a line asks for it. -/
def Asked (env : Surroundings) (p : Parsed) : Addition → Prop
  | .cluster c => ClusterGiven env p c
  | .host cluster h => cluster = p.clusterId ∧ HostGiven env p h
  | .inst cluster i => cluster = p.clusterId ∧ InstanceGiven p i

theorem flag_of_required {p : Parsed} {key value : String} (given : required p key = .ok value) :
    p.flag key = some value := by
  rw [required] at given
  cases flag : p.flag key with
  | none =>
    rw [flag] at given
    cases given
  | some v =>
    rw [flag] at given
    cases given
    rfl

private theorem port_of_portFlag {key value : String} {n : UInt16} (given : portFlag key value = .ok n) :
    port? (trim value.toList) = some n := by
  rw [portFlag] at given
  cases port : port? (trim value.toList) with
  | none =>
    rw [port] at given
    cases given
  | some m =>
    rw [port] at given
    cases given
    rfl

private theorem name_of_roleFlag {name : String} {r : Role} (given : roleFlag (some name) = .ok r) :
    asciiLower name = r.name := by
  simp only [roleFlag, Role.ofText] at given
  cases found : Role.ofName? (asciiLower name) with
  | none =>
    rw [found] at given
    cases given
  | some role =>
    rw [found] at given
    cases given
    exact Role.ofName?_eq_some_iff.1 found

section Checks

variable {env : Surroundings} {p : Parsed} {request : Request}

theorem asked_of_checkClusterAdd (shape : p.shape = .clusterAdd) (ok : checkClusterAdd p = .ok request) :
    ∃ a, addition? env request = some a ∧ Asked env p a := by
  obtain ⟨id, given, rest⟩ := bind_eq_ok ok
  cases rest
  exact ⟨_, rfl, shape, flag_of_required given, rfl, rfl⟩

theorem asked_of_checkHostAdd (shape : p.shape = .hostAdd) (ok : checkHostAdd p = .ok request) :
    ∃ a, addition? env request = some a ∧ Asked env p a := by
  obtain ⟨ip, given, rest⟩ := bind_eq_ok ok
  have ip_given := flag_of_required given
  cases flag : p.flag "ssh-port" with
  | none =>
    rw [flag] at rest
    cases rest
    refine ⟨_, rfl, rfl, shape, ip_given, rfl, ?_, fun _ => rfl⟩
    intro text same
    rw [flag] at same
    cases same
  | some value =>
    rw [flag] at rest
    obtain ⟨port, numbered, rest⟩ := bind_eq_ok rest
    cases rest
    refine ⟨_, rfl, rfl, shape, ip_given, rfl, ?_, ?_⟩
    · intro text same
      rw [flag] at same
      cases same
      exact port_of_portFlag numbered
    · intro absent
      rw [flag] at absent
      cases absent

theorem asked_of_checkInstanceAdd (shape : p.shape = .instanceAdd) (ok : checkInstanceAdd p = .ok request) :
    ∃ a, addition? env request = some a ∧ Asked env p a := by
  obtain ⟨host, host_given, rest⟩ := bind_eq_ok ok
  obtain ⟨value, value_given, rest⟩ := bind_eq_ok rest
  obtain ⟨port, numbered, rest⟩ := bind_eq_ok rest
  obtain ⟨role, named, rest⟩ := bind_eq_ok rest
  cases rest
  refine ⟨_, rfl, rfl, shape, flag_of_required host_given,
    ⟨value, flag_of_required value_given, port_of_portFlag numbered⟩, ?_, ?_, rfl⟩
  · intro name same
    rw [same] at named
    exact name_of_roleFlag named
  · intro absent
    rw [absent] at named
    cases named
    rfl

theorem eq_ok_of_rejecting {command : AddCommand} {checked : Except FlagFault Request}
    (ok : rejecting command checked = .ok request) : checked = .ok request := by
  cases checked with
  | error fault => cases ok
  | ok r =>
    cases ok
    rfl

/-- What a checked line adds is what its flags give. -/
theorem asked_of_ofParsed (ok : Request.ofParsed p = .ok request) {a : Addition}
    (adds : addition? env request = some a) : Asked env p a := by
  have one_addition (found : ∃ a, addition? env request = some a ∧ Asked env p a) : Asked env p a := by
    obtain ⟨a', same, asked⟩ := found
    rw [adds] at same
    cases same
    exact asked
  rw [Request.ofParsed] at ok
  cases shape : p.shape with
  | clusterAdd =>
    rw [shape] at ok
    exact one_addition (asked_of_checkClusterAdd shape (eq_ok_of_rejecting ok))
  | hostAdd =>
    rw [shape] at ok
    exact one_addition (asked_of_checkHostAdd shape (eq_ok_of_rejecting ok))
  | instanceAdd =>
    rw [shape] at ok
    exact one_addition (asked_of_checkInstanceAdd shape (eq_ok_of_rejecting ok))
  | _ =>
    rw [shape] at ok
    cases ok
    cases adds

end Checks

end ClusterRegister.Console
