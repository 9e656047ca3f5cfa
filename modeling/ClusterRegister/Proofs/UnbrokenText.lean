import ClusterRegister.Proofs.LossyText
import ClusterRegister.Proofs.Origins
import ClusterRegister.Proofs.Timestamps
import ClusterRegister.Proofs.Tokens

/-!
# Unbroken text

Text without line feeds. A line that a session reads has none once the blanks around it are gone, so there is none in
what the line is understood as, in the records that it asks for, or in contents that are made of such records
(`Represents.unbroken`).
-/

namespace ClusterRegister.Text

/-- Text without line feeds. -/
def Unbroken (s : String) : Prop := ∀ c ∈ s.toList, c ≠ '\n'

instance (s : String) : Decidable (Unbroken s) := List.decidableBAll (· ≠ '\n') s.toList

theorem unbroken_iff {s : String} : Unbroken s ↔ '\n' ∉ s.toList :=
  ⟨fun unbroken member => unbroken _ member rfl, fun absent _ member same => absent (same ▸ member)⟩

theorem Unbroken.append {a b : String} (first : Unbroken a) (later : Unbroken b) : Unbroken (a ++ b) := by
  intro c member
  rcases List.mem_append.1 (String.toList_append ▸ member) with here | there
  · exact first c here
  · exact later c there

theorem Unbroken.not_mem_bytes {s : String} (unbroken : Unbroken s) : 0x0A ∉ Utf8.bytes s :=
  fun member => unbroken_iff.1 unbroken (Utf8.feed_mem_encode_iff.1 member)

private theorem ne_feed_of_isDigit {c : Char} (digit : c.isDigit = true) : c ≠ '\n' := by
  rintro rfl
  cases digit

theorem unbroken_natText (n : Nat) : Unbroken (natText n) := by
  intro c member
  rw [natText, String.toList_ofList] at member
  exact ne_feed_of_isDigit (Nat.isDigit_of_mem_toDigits (by decide) (by decide) member)

private theorem mem_of_mem_trimStart {cs : List Char} {c : Char} (member : c ∈ trimStart cs) : c ∈ cs :=
  (List.dropWhile_sublist isBlank).subset member

private theorem mem_of_mem_trimEnd {cs : List Char} {c : Char} (member : c ∈ trimEnd cs) : c ∈ cs :=
  List.mem_reverse.1 (mem_of_mem_trimStart (List.mem_reverse.1 member))

private theorem mem_of_mem_trim {cs : List Char} {c : Char} (member : c ∈ trim cs) : c ∈ cs :=
  mem_of_mem_trimStart (mem_of_mem_trimEnd member)

/-- Trimming takes off a line feed at the end. -/
theorem mem_of_mem_trim_feed {cs : List Char} {c : Char} (member : c ∈ trim (cs ++ ['\n'])) : c ∈ cs := by
  have blank : isBlank '\n' = true := by decide
  rw [trim, trimStart, List.dropWhile_append] at member
  split at member
  · rw [List.dropWhile_cons_of_pos blank] at member
    cases member
  · have ended : trimEnd (cs.dropWhile isBlank ++ ['\n']) = trimEnd (cs.dropWhile isBlank) := by
      rw [trimEnd, List.reverse_append, List.reverse_singleton, List.singleton_append,
        List.dropWhile_cons_of_pos blank, trimEnd]
    rw [ended] at member
    exact mem_of_mem_trimStart (mem_of_mem_trimEnd member)

end ClusterRegister.Text

namespace ClusterRegister.Calendar

open ClusterRegister.Text

private theorem ne_feed_of_mem_padded {width n : Nat} {c : Char} (member : c ∈ decimalPadded width n) : c ≠ '\n' :=
  ne_feed_of_isDigit (isDigit_of_mem_padded member)

private theorem ne_feed_of_mem_yearText {y : Int} {c : Char} (member : c ∈ yearText y) : c ≠ '\n' := by
  rw [yearText] at member
  split at member
  · split at member
    · exact ne_feed_of_mem_padded member
    · rcases List.mem_cons.1 member with rfl | digit
      · decide
      · exact ne_feed_of_mem_padded digit
  · rcases List.mem_cons.1 member with rfl | digit
    · decide
    · exact ne_feed_of_mem_padded digit

private theorem ne_feed_of_mem_dateText {d : Date} {c : Char} (member : c ∈ d.text) : c ≠ '\n' := by
  simp only [Date.text, List.mem_append, List.mem_cons, or_assoc] at member
  rcases member with year | rfl | month | rfl | day
  · exact ne_feed_of_mem_yearText year
  · decide
  · exact ne_feed_of_mem_padded month
  · decide
  · exact ne_feed_of_mem_padded day

private theorem ne_feed_of_mem_clockText {t : Instant} {c : Char} (member : c ∈ t.clockText) : c ≠ '\n' := by
  simp only [Instant.clockText, List.mem_append, List.mem_cons, or_assoc] at member
  rcases member with hour | rfl | minute | rfl | second
  · exact ne_feed_of_mem_padded hour
  · decide
  · exact ne_feed_of_mem_padded minute
  · decide
  · exact ne_feed_of_mem_padded second

private theorem ne_feed_of_mem_fractionText {nanos : Nat} {c : Char} (member : c ∈ fractionText nanos) : c ≠ '\n' := by
  have pointed {width n : Nat} (member : c ∈ '.' :: decimalPadded width n) : c ≠ '\n' := by
    rcases List.mem_cons.1 member with rfl | digit
    · decide
    · exact ne_feed_of_mem_padded digit
  rw [fractionText] at member
  split at member
  · cases member
  split at member
  · exact pointed member
  split at member
  · exact pointed member
  · exact pointed member

/-- The stored text of a time is one line. -/
theorem ne_feed_of_mem_text {t : Instant} {c : Char} (member : c ∈ t.text) : c ≠ '\n' := by
  simp only [Instant.text, List.mem_append, List.mem_cons, or_assoc] at member
  rcases member with date | rfl | clock | fraction | rfl | nothing
  · exact ne_feed_of_mem_dateText date
  · decide
  · exact ne_feed_of_mem_clockText clock
  · exact ne_feed_of_mem_fractionText fraction
  · decide
  · cases nothing

/-- The shown text of a time is one line. -/
theorem ne_feed_of_mem_display {t : Instant} {c : Char} (member : c ∈ t.display) : c ≠ '\n' := by
  simp only [Instant.display, List.mem_append, List.mem_cons] at member
  rcases member with date | rfl | clock
  · exact ne_feed_of_mem_dateText date
  · decide
  · exact ne_feed_of_mem_clockText clock

end ClusterRegister.Calendar

namespace ClusterRegister.Console

open ClusterRegister.Line ClusterRegister.Register ClusterRegister.Text

theorem CutAtFeeds.body {bs : Bytes} {ps : List Bytes} (cut : CutAtFeeds bs ps) {piece : Bytes} (member : piece ∈ ps) :
    ∃ body, 0x0A ∉ body ∧ (piece = body ∨ piece = body ++ [0x0A]) := by
  induction cut with
  | nothing => cases member
  | @tail only _ unended => exact ⟨only, unended, .inl (List.mem_singleton.1 member)⟩
  | @line first _ _ unended _ ih =>
    rcases List.mem_cons.1 member with here | later
    · exact ⟨first, unended, .inr here⟩
    · exact ih later

/-- A line that is read has no line feed once the blanks around it are gone. -/
theorem ne_feed_of_mem_trim {bs piece : Bytes} (read : piece ∈ pieces bs) {c : Char}
    (member : c ∈ trim (lineText piece).toList) : c ≠ '\n' := by
  rintro rfl
  obtain ⟨body, unended, same⟩ := (cutAtFeeds_pieces bs).body read
  rw [lineText, String.toList_ofList] at member
  rcases same with rfl | rfl
  · exact unended (Utf8.feed_of_mem_decodeLossy (mem_of_mem_trim member))
  · rw [Utf8.decodeLossy_append_feed] at member
    exact unended (Utf8.feed_of_mem_decodeLossy (mem_of_mem_trim_feed member))

private theorem mem_of_mem_upToLeave {lines : List String} {line : String} (member : line ∈ upToLeave lines) :
    line ∈ lines := by
  induction lines with
  | nil => cases member
  | cons first lines ih =>
    rw [upToLeave] at member
    split at member
    · rw [List.mem_singleton.1 member]
      exact .head _
    · rcases List.mem_cons.1 member with rfl | later
      · exact .head _
      · exact .tail _ (ih later)

/-- A line that is understood without line feeds: neither the id of its cluster nor a flag has one. -/
def UnbrokenLine (p : Parsed) : Prop := p.OfKind (· ≠ '\n')

/-- The lines that a session executes are understood without line feeds. -/
theorem unbrokenLine_of_read {bs : Bytes} {line : String} (executed : line ∈ upToLeave ((pieces bs).map lineText)) :
    UnbrokenLine (.ofLine line) := by
  obtain ⟨piece, read, rfl⟩ := List.mem_map.1 (mem_of_mem_upToLeave executed)
  exact Parsed.ofKind_ofLine fun c member _ => ne_feed_of_mem_trim read member

variable {p : Parsed}

theorem UnbrokenLine.clusterId (unbroken : UnbrokenLine p) : Unbroken p.clusterId :=
  Parsed.OfKind.clusterId unbroken

theorem UnbrokenLine.flag (unbroken : UnbrokenLine p) {key value : String} (given : p.flag key = some value) :
    Unbroken value :=
  (Parsed.OfKind.flags unbroken _ (Table.mem_entries_iff.2 (Parsed.flag_eq_some_iff.1 given).1)).2

/-- A flag or the default that it leaves open. -/
theorem UnbrokenLine.getD (unbroken : UnbrokenLine p) (key : String) {standard : String} (known : Unbroken standard) :
    Unbroken ((p.flag key).getD standard) := by
  cases given : p.flag key with
  | none => exact known
  | some value => exact unbroken.flag given

end ClusterRegister.Console

namespace ClusterRegister

open ClusterRegister.Text

/-- A cluster whose texts have no line feeds. -/
structure Cluster.Unbroken (c : Cluster) : Prop where
  id : Text.Unbroken c.id
  workerAddr : Text.Unbroken c.workerAddr
  createdAt : Text.Unbroken (String.ofList c.createdAt.text)

/-- A host whose texts have no line feeds. -/
structure Host.Unbroken (h : Host) : Prop where
  id : Text.Unbroken h.id
  ip : Text.Unbroken h.ip
  sshUser : Text.Unbroken h.sshUser
  clusterId : Text.Unbroken h.clusterId

/-- An instance whose texts have no line feeds. -/
structure Instance.Unbroken (i : Instance) : Prop where
  id : Text.Unbroken i.id
  host : Text.Unbroken i.host
  masterAddr : Text.Unbroken i.masterAddr
  clusterId : Text.Unbroken i.clusterId

theorem unbroken_addr {i : Instance} (host : Text.Unbroken i.host) : Text.Unbroken i.addr :=
  (host.append (by decide)).append (unbroken_natText _)

end ClusterRegister

namespace ClusterRegister.Register

open ClusterRegister.Console ClusterRegister.Line ClusterRegister.Record ClusterRegister.Text

/-- An addition whose texts have no line feeds. -/
def UnbrokenAddition : Addition → Prop
  | .cluster c => Unbroken c.id ∧ Unbroken c.workerAddr
  | .host cluster h => Unbroken cluster ∧ Unbroken h.ip ∧ Unbroken h.sshUser
  | .inst cluster i => Unbroken cluster ∧ Unbroken i.host ∧ Unbroken i.masterAddr

/-- Surroundings whose texts have no line feeds. -/
structure UnbrokenDefaults (env : Surroundings) : Prop where
  workerAddr : Unbroken env.workerAddr
  sshUser : Unbroken env.sshUser

theorem unbroken_of_asked {env : Surroundings} (defaults : UnbrokenDefaults env) {p : Parsed}
    (unbroken : UnbrokenLine p) {a : Addition} (asked : Asked env p a) : UnbrokenAddition a := by
  cases a with
  | cluster c =>
    refine ⟨unbroken.flag asked.id, ?_⟩
    rw [asked.workerAddr]
    exact unbroken.getD "listen" defaults.workerAddr
  | host cluster h =>
    obtain ⟨rfl, given⟩ := asked
    refine ⟨unbroken.clusterId, unbroken.flag given.ip, ?_⟩
    rw [given.sshUser]
    exact unbroken.getD "ssh-user" defaults.sshUser
  | inst cluster i =>
    obtain ⟨rfl, given⟩ := asked
    refine ⟨unbroken.clusterId, unbroken.flag given.host, ?_⟩
    rw [given.masterAddr]
    exact unbroken.getD "master" (by decide)

section Entries

variable {e : RosterEntry} (origin : e.From UnbrokenAddition)

include origin

private theorem unbroken_cluster : e.cluster.Unbroken := by
  refine ⟨origin.cluster.1, origin.cluster.2, fun c member => ?_⟩
  rw [String.toList_ofList] at member
  exact Calendar.ne_feed_of_mem_text member

theorem unbroken_carried : e.cluster.carried.Unbroken := by
  have whole := unbroken_cluster origin
  exact ⟨whole.id, whole.workerAddr, (e.cluster.createdAt.text_carried).symm ▸ whole.createdAt⟩

theorem unbroken_host {h : Host} (member : h ∈ e.hosts) : h.Unbroken := by
  obtain ⟨given, ⟨named, ip, sshUser⟩, rfl⟩ := origin.hosts h member
  exact ⟨ip, ip, sshUser, named⟩

theorem unbroken_instance {i : Instance} (member : i ∈ e.instances) : i.Unbroken := by
  obtain ⟨given, ⟨named, host, masterAddr⟩, rfl⟩ := origin.instances i member
  exact ⟨unbroken_addr host, host, masterAddr, named⟩

end Entries

/-- Contents that have no line feeds: neither in a key, nor in an id of the order, nor in a record. -/
structure Tables.Unbroken (t : Tables) : Prop where
  clusters : ∀ id blob, t.clusters.get? id = some blob →
    Text.Unbroken id ∧ ∃ c : Cluster, decode blob = .ok c ∧ c.Unbroken
  hosts : ∀ id blob, t.hosts.get? id = some blob →
    Text.Unbroken id ∧ ∃ hs : List Host, decodeList blob = .ok hs ∧ ∀ h ∈ hs, h.Unbroken
  instances : ∀ id blob, t.instances.get? id = some blob →
    Text.Unbroken id ∧ ∃ is : List Instance, decodeList blob = .ok is ∧ ∀ i ∈ is, i.Unbroken
  order : ∀ id ∈ t.order.values, Text.Unbroken id

theorem Represents.unbroken {r : Roster} {t : Tables} (rep : Represents r t)
    (origin : ∀ e ∈ r, e.From UnbrokenAddition) : t.Unbroken where
  clusters id blob under := by
    rw [rep.clusters id] at under
    obtain ⟨e, found, rfl⟩ := Option.map_eq_some_iff.1 under
    have whole := unbroken_carried (origin e (Roster.mem_of_under? found))
    exact ⟨Roster.id_of_under? found ▸ whole.id, e.cluster.carried, decode_cluster _, whole⟩
  hosts id blob under := by
    rw [rep.hosts id] at under
    obtain ⟨e, member, rfl, _, _, same⟩ := rep.listed_entry under
    exact ⟨(unbroken_cluster (origin e member)).id, e.hosts, by rw [same, decodeList_exact],
      fun h => unbroken_host (origin e member)⟩
  instances id blob under := by
    rw [rep.instances id] at under
    obtain ⟨e, member, rfl, _, _, same⟩ := rep.listed_entry under
    exact ⟨(unbroken_cluster (origin e member)).id, e.instances, by rw [same, decodeList_exact],
      fun i => unbroken_instance (origin e member)⟩
  order id member := by
    rw [Table.values, rep.order, values_numbered] at member
    obtain ⟨e, inside, rfl⟩ := List.mem_map.1 member
    exact (unbroken_cluster (origin e inside)).id

end ClusterRegister.Register
