import ClusterRegister.Program.Run
import ClusterRegister.Proofs.EffectiveSettings
import ClusterRegister.Proofs.Origins
import ClusterRegister.Proofs.Tokens

/-!
# Admission

Which records get into a store by text commands alone, under settings that the program accepts. The line that asks for
a record, the settings that fill in for omitted flags and the store that adds it each see to a part of what makes it
well-formed; together they see to all of it (`text_admits_wellFormed`).
-/

namespace ClusterRegister

open ClusterRegister.Files ClusterRegister.Line ClusterRegister.Text

structure Cluster.WellFormed (c : Cluster) : Prop where
  id_filled : isBlankText c.id = false
  id_unquoted : Unquoted c.id.toList
  workerAddr : c.workerAddr ≠ ""

structure Host.WellFormed (h : Host) : Prop where
  ip_filled : isBlankText h.ip = false
  ip_unquoted : Unquoted h.ip.toList
  sshUser : h.sshUser ≠ ""
  sshPort : 1 ≤ h.sshPort.toNat ∧ h.sshPort.toNat ≤ 65535

structure Instance.WellFormed (i : Instance) : Prop where
  host_filled : isBlankText i.host = false
  host_unquoted : Unquoted i.host.toList
  port : 1 ≤ i.port.toNat ∧ i.port.toNat ≤ 65535
  masterAddr_unquoted : Unquoted i.masterAddr.toList

private theorem port_range {n : UInt16} (not_zero : n ≠ 0) : 1 ≤ n.toNat ∧ n.toNat ≤ 65535 := by
  have positive := Nat.pos_of_ne_zero fun zero => not_zero (UInt16.toNat_inj.1 zero)
  have small := n.toNat_lt
  omega

private theorem port?_ne_zero {cs : List Char} {n : UInt16} (read : port? cs = some n) : n ≠ 0 := by
  rw [port?] at read
  cases number : unsigned? cs with
  | none =>
    rw [number] at read
    cases read
  | some m =>
    rw [number] at read
    simp only at read
    by_cases inside : 0 < m ∧ m < 65536
    · rw [if_pos inside] at read
      cases read
      intro zero
      have same : (UInt16.ofNat m).toNat = m := UInt16.toNat_ofNat_of_lt' inside.2
      rw [zero] at same
      have is_zero : m = 0 := same.symm
      omega
    · rw [if_neg inside] at read
      cases read

/-- Settings whose values can stand in for omitted flags. -/
structure Settings.Usable (s : Settings) : Prop where
  workerAddr : s.workerAddr ≠ ""
  sshUser : s.sshUser ≠ ""
  sshPort : s.sshPort ≠ 0

theorem Settings.Valid.usable {s : Settings} (valid : s.Valid) : s.Usable := by
  refine ⟨fun empty => ?_, fun empty => ?_, fun zero => ?_⟩
  · obtain ⟨host, port, n, whole, -⟩ := valid.workerAddr
    simp [empty] at whole
  · obtain ⟨c, member, -⟩ := valid.sshUser
    simp [empty] at member
  · exact absurd valid.sshPort (by rw [zero]; decide)

/-- Settings that the program accepts are usable, whether they are read from a file or the standard ones. -/
theorem Settings.usable_of_resolve {files : Tree} {named : Option String} {s : Settings}
    (resolved : resolve files named = .ok s) : s.Usable :=
  (resolve_eq_ok_iff.1 resolved).2.usable

end ClusterRegister

namespace ClusterRegister.Register

open ClusterRegister.Calendar ClusterRegister.Console ClusterRegister.Files ClusterRegister.Line
open ClusterRegister.Program ClusterRegister.Record ClusterRegister.Text

section Records

variable {settings : Settings} {now : Instant} {line : String} (usable : settings.Usable)

include usable in
private theorem wellFormed_of_clusterGiven {c : Cluster}
    (given : ClusterGiven (surroundings settings now) (.ofLine line) c)
    (filled : isBlankText c.id = false) : c.WellFormed := by
  refine ⟨filled, (Parsed.flag_value given.id).2, ?_⟩
  rw [given.workerAddr]
  cases listen : (Parsed.ofLine line).flag "listen" with
  | none => exact usable.workerAddr
  | some addr => exact (Parsed.flag_value listen).1

include usable in
private theorem wellFormed_of_hostGiven {h : Host} (given : HostGiven (surroundings settings now) (.ofLine line) h)
    (filled : isBlankText h.ip = false) : h.WellFormed := by
  refine ⟨filled, (Parsed.flag_value given.ip).2, ?_, port_range ?_⟩
  · rw [given.sshUser]
    cases user : (Parsed.ofLine line).flag "ssh-user" with
    | none => exact usable.sshUser
    | some name => exact (Parsed.flag_value user).1
  · cases port : (Parsed.ofLine line).flag "ssh-port" with
    | none =>
      rw [given.sshPort_default port]
      exact usable.sshPort
    | some text => exact port?_ne_zero (given.sshPort text port)

private theorem wellFormed_of_instanceGiven {i : Instance} (given : InstanceGiven (.ofLine line) i)
    (filled : isBlankText i.host = false) : i.WellFormed := by
  obtain ⟨text, _, port⟩ := given.port
  refine ⟨filled, (Parsed.flag_value given.host).2, port_range (port?_ne_zero port), ?_⟩
  rw [given.masterAddr]
  cases master : (Parsed.ofLine line).flag "master" with
  | none => exact fun c nowhere => by cases nowhere
  | some addr => exact (Parsed.flag_value master).2

end Records

/-- A turn at a store: a text command, each of whose lines has its time, with some sink for its output, or closing the
store and opening it again. -/
inductive Turn
  | text (c : TextCommand) (clock : Nat → Instant) (sink : Sink)
  | reopen

def Turn.operation (settings : Settings) : Turn → Operation
  | .text c clock sink => .command (c.under fun n => surroundings settings (clock n)) sink
  | .reopen => .call .reopen

/-- A line that is given in one of the turns at its time. -/
def GivenIn (turns : List Turn) (now : Instant) (line : String) : Prop :=
  ∃ c clock sink i, .text c clock sink ∈ turns ∧ c.lines[i]? = some line ∧ clock i = now

theorem GivenIn.later {turns : List Turn} {now : Instant} {line : String} (given : GivenIn turns now line)
    (turn : Turn) : GivenIn (turn :: turns) now line := by
  obtain ⟨c, clock, sink, i, member, inside⟩ := given
  exact ⟨c, clock, sink, i, .tail _ member, inside⟩

/-- An addition that a line of one of the turns asks for under settings. -/
def AskedIn (settings : Settings) (turns : List Turn) (a : Addition) : Prop :=
  ∃ now line, GivenIn turns now line ∧ Asked (surroundings settings now) (.ofLine line) a

private theorem askedIn_of_mem_accepts {s : Store} {settings : Settings} {turn : Turn} {a : Addition}
    (member : a ∈ s.accepts (turn.operation settings)) (turns : List Turn) : AskedIn settings (turn :: turns) a := by
  cases turn with
  | text c clock sink =>
    obtain ⟨i, line, there, asked⟩ := TextCommand.asked_of_mem member
    exact ⟨clock i, line, ⟨c, clock, sink, i, .head _, there, rfl⟩, asked⟩
  | reopen => cases member

/-- Over any turns, the contents accept only what a line of one of them asks for. -/
theorem askedIn_of_mem_additions {s : Store} {settings : Settings} {turns : List Turn} {a : Addition}
    (member : a ∈ s.additions (turns.map (Turn.operation settings))) : AskedIn settings turns a := by
  induction turns generalizing s with
  | nil => cases member
  | cons turn turns ih =>
    rcases List.mem_append.1 member with here | there
    · exact askedIn_of_mem_accepts here turns
    · obtain ⟨now, line, given, asked⟩ := ih there
      exact ⟨now, line, given.later turn, asked⟩

/-- A sound roster whose records are additions of a kind. -/
structure Roster.SoundFrom (P : Addition → Prop) (r : Roster) : Prop where
  sound : r.Sound
  origin : ∀ e ∈ r, e.From P

theorem Roster.SoundFrom.added {P : Addition → Prop} {r r' : Roster} {a : Addition} {receipt : Receipt}
    (all : r.SoundFrom P) (kind : P a) (added : r.Added a receipt r') : r'.SoundFrom P :=
  ⟨all.sound.add added, Roster.from_added all.origin kind added⟩

/-- Contents with well-formed records alone. Each is the one that the flags of a line of the turns give, where an
omitted flag has the value of the settings; a cluster has its time as it is read back. -/
structure Admitted (settings : Settings) (turns : List Turn) (t : Tables) : Prop where
  clusters : ∀ id blob, t.clusters.get? id = some blob →
    ∃ c : Cluster, decode blob = .ok c.carried ∧ c.id = id ∧ c.carried.WellFormed ∧
      ∃ now line, GivenIn turns now line ∧ ClusterGiven (surroundings settings now) (.ofLine line) c
  hosts : ∀ cluster blob, t.hosts.get? cluster = some blob →
    ∃ hs : List Host, decodeList blob = .ok hs ∧ ∀ h ∈ hs, h.WellFormed ∧
      ∃ now line, GivenIn turns now line ∧ cluster = (Parsed.ofLine line).clusterId ∧
        HostGiven (surroundings settings now) (.ofLine line) h
  instances : ∀ cluster blob, t.instances.get? cluster = some blob →
    ∃ is : List Instance, decodeList blob = .ok is ∧ ∀ i ∈ is, i.WellFormed ∧
      ∃ now line, GivenIn turns now line ∧ cluster = (Parsed.ofLine line).clusterId ∧ InstanceGiven (.ofLine line) i

section Contents

variable {settings : Settings} {turns : List Turn} (usable : settings.Usable) {e : RosterEntry} (sound : e.Sound)
  (origin : e.From (AskedIn settings turns))

include sound origin

include usable in
private theorem host_admitted {h : Host} (member : h ∈ e.hosts) :
    h.WellFormed ∧ ∃ now line, GivenIn turns now line ∧ e.cluster.id = (Parsed.ofLine line).clusterId ∧
      HostGiven (surroundings settings now) (.ofLine line) h := by
  obtain ⟨given, ⟨now, line, turn, named, asked⟩, same⟩ := origin.hosts h member
  have listed : HostGiven (surroundings settings now) (.ofLine line) h := by
    rw [same]
    exact ⟨asked.shape, asked.ip, asked.sshUser, asked.sshPort, asked.sshPort_default⟩
  exact ⟨wellFormed_of_hostGiven usable listed (sound.hosts h member).ip, now, line, turn, named, listed⟩

private theorem instance_admitted {i : Instance} (member : i ∈ e.instances) :
    i.WellFormed ∧ ∃ now line, GivenIn turns now line ∧ e.cluster.id = (Parsed.ofLine line).clusterId ∧
      InstanceGiven (.ofLine line) i := by
  obtain ⟨given, ⟨now, line, turn, named, asked⟩, same⟩ := origin.instances i member
  have listed : InstanceGiven (.ofLine line) i := by
    rw [same]
    exact ⟨asked.shape, asked.host, asked.port, asked.role, asked.role_default, asked.masterAddr⟩
  exact ⟨wellFormed_of_instanceGiven listed (sound.instances i member).host, now, line, turn, named, listed⟩

include usable in
private theorem cluster_admitted :
    e.cluster.carried.WellFormed ∧
      ∃ now line, GivenIn turns now line ∧ ClusterGiven (surroundings settings now) (.ofLine line) e.cluster := by
  obtain ⟨now, line, turn, given⟩ := origin.cluster
  have whole := wellFormed_of_clusterGiven usable given sound.id
  exact ⟨⟨whole.id_filled, whole.id_unquoted, whole.workerAddr⟩, now, line, turn, given⟩

end Contents

theorem Represents.admitted {settings : Settings} {turns : List Turn} (usable : settings.Usable) {r : Roster}
    {t : Tables} (rep : Represents r t) (all : r.SoundFrom (AskedIn settings turns)) : Admitted settings turns t where
  clusters id blob under := by
    rw [rep.clusters id] at under
    obtain ⟨e, found, rfl⟩ := Option.map_eq_some_iff.1 under
    have member := Roster.mem_of_under? found
    exact ⟨e.cluster, decode_cluster _, Roster.id_of_under? found,
      cluster_admitted usable (all.sound e member) (all.origin e member)⟩
  hosts cluster blob under := by
    rw [rep.hosts cluster] at under
    obtain ⟨e, member, name, _, _, same⟩ := rep.listed_entry under
    refine ⟨e.hosts, by rw [same, decodeList_exact], ?_⟩
    rw [← name]
    exact fun h listed => host_admitted usable (all.sound e member) (all.origin e member) listed
  instances cluster blob under := by
    rw [rep.instances cluster] at under
    obtain ⟨e, member, name, _, _, same⟩ := rep.listed_entry under
    refine ⟨e.instances, by rw [same, decodeList_exact], ?_⟩
    rw [← name]
    exact fun i listed => instance_admitted (all.sound e member) (all.origin e member) listed

/-- After any turns at a store that was opened empty, under settings that the program accepts, all records are
well-formed and asked for by a line, whose omitted flags have the values of the settings. -/
theorem text_admits_wellFormed {files : Tree} {named : Option String} {settings : Settings}
    (resolved : Settings.resolve files named = .ok settings) {before tree : Tree} {path : String} {place : Place}
    (opened : before.openStore path = (.ok (place, .empty), tree)) (turns : List Turn) :
    Admitted settings turns (Store.run ⟨tree, path, place, .empty⟩ (turns.map (Turn.operation settings))).tables := by
  have usable := Settings.usable_of_resolve resolved
  have nothing : Roster.SoundFrom (AskedIn settings turns) [] := ⟨Roster.sound_nil, fun e nowhere => by cases nowhere⟩
  obtain ⟨accepted, _⟩ := run_accepts (s := ⟨tree, path, place, .empty⟩) (.of_openStore opened)
    (turns.map (Turn.operation settings))
  obtain ⟨r, rep, all⟩ :=
    Represents.empty.keeps Roster.SoundFrom.added nothing accepted fun _ => askedIn_of_mem_additions
  exact rep.admitted usable all

/-- The standard settings, a session that adds a cluster, a reopening, and a command that adds a host with an empty flag
while its output breaks off at once. -/
theorem standard_settings_admit :
    let turns : List Turn :=
      [.text (.interactive "> " ⟨Utf8.bytes "cluster add --id='a b'\nexit\n", .closed⟩) (fun _ => .epoch) .unlimited,
        .reopen,
        .text (.oneShot ["cluster", "'a b'", "host", "add", "--ip=h", "--ssh-user="]) (fun _ => .epoch)
          (.limited (some 0) true)]
    (newStore.run (turns.map (Turn.operation .standard))).tables.hosts.keys = ["a b"] ∧
      Admitted .standard turns (newStore.run (turns.map (Turn.operation .standard))).tables := by
  intro turns
  have resolved : Settings.resolve Tree.fresh none = .ok .standard := rfl
  exact ⟨by decide +kernel, text_admits_wellFormed resolved newStore_opened turns⟩

end ClusterRegister.Register
