import ClusterRegister.Proofs.Confirmations
import ClusterRegister.Proofs.UnbrokenText

/-!
# Rows

An output of lines without line feeds is cut into these lines again, and how a line begins tells what it is: a report,
or a row for a cluster, a host or an instance. A view has just one row for each record that it shows.
-/

namespace ClusterRegister.Console

open ClusterRegister.Text

/-- A line as it is written. -/
def row (line : String) : Bytes := Utf8.bytes (line ++ "\n")

/-- Whether bytes begin as one of some texts. -/
def beginsWith (heads : List String) (bs : Bytes) : Bool := heads.any fun head => (Utf8.bytes head).isPrefixOf bs

/-- The rows of an output that begin as one of some texts, in their order. -/
def rowsWith (heads : List String) (out : Bytes) : List Bytes := (pieces out).filter (beginsWith heads)

private theorem row_eq (line : String) : row line = Utf8.bytes line ++ [0x0A] := by
  have feed : Utf8.bytes "\n" = [0x0A] := by decide
  rw [row, Utf8.bytes_append, feed]

/-- Lines without line feeds are the rows of their output. -/
theorem pieces_linesText {lines : List String} (unbroken : ∀ line ∈ lines, Unbroken line) :
    pieces (Utf8.bytes (linesText lines)) = lines.map row := by
  induction lines with
  | nil => rfl
  | cons line lines ih =>
    have rest := ih fun later member => unbroken later (.tail _ member)
    have whole := unbroken line (.head _)
    rw [linesText_cons, Utf8.bytes_append, ← row, row_eq, List.append_assoc, List.singleton_append,
      pieces_line whole.not_mem_bytes, rest, List.map_cons, row_eq]

theorem rowsWith_linesText (heads : List String) {lines : List String} (unbroken : ∀ line ∈ lines, Unbroken line) :
    rowsWith heads (Utf8.bytes (linesText lines)) = (lines.filter fun line => beginsWith heads (row line)).map row := by
  rw [rowsWith, pieces_linesText unbroken, List.filter_map]
  rfl

theorem linesText_ended (lines : List String) :
    Utf8.bytes (linesText lines) = [] ∨ (Utf8.bytes (linesText lines)).getLast? = some 0x0A := by
  induction lines with
  | nil => exact .inl rfl
  | cons line lines ih =>
    refine .inr ?_
    rw [linesText_cons, Utf8.bytes_append, ← row, row_eq]
    rcases ih with empty | ended
    · rw [empty, List.append_nil, List.getLast?_append]
      rfl
    · rw [List.getLast?_append, ended]
      rfl

/-- What the beginning of a line can tell. -/
inductive Mark
  | report
  | cluster
  | host
  | inst
  | emptiness
deriving DecidableEq

def Mark.all : List Mark := [.report, .cluster, .host, .inst, .emptiness]

theorem Mark.mem_all (m : Mark) : m ∈ all := by cases m <;> decide

/-- How lines with a mark begin. -/
def Mark.heads : Mark → List String
  | .report => ["  [ok] ", "  [error] "]
  | .cluster => ["  cluster: "]
  | .host => ["    - "]
  | .inst => ["    master: ", "    slave:  "]
  | .emptiness => ["  (no hosts or instances)"]

/-- The only mark that a line has, if it has one. -/
def Marked (only : Option Mark) (line : String) : Prop :=
  ∀ m ∈ Mark.all, beginsWith m.heads (row line) = decide (only = some m)

instance (only : Option Mark) (line : String) : Decidable (Marked only line) := List.decidableBAll _ Mark.all

/-- Two texts of which neither goes on as the other. -/
def Apart (a b : String) : Prop :=
  (Utf8.bytes a).take (Utf8.bytes b).length ≠ (Utf8.bytes b).take (Utf8.bytes a).length

instance (a b : String) : Decidable (Apart a b) := inferInstanceAs (Decidable (_ ≠ _))

/-- What a text tells that a line begins with: it has the head of its mark, and no head of another one. -/
def TellsMark (only : Option Mark) (text : String) : Prop :=
  ∀ m ∈ Mark.all, if only = some m then ∃ head ∈ m.heads, Utf8.bytes head <+: Utf8.bytes text
    else ∀ head ∈ m.heads, Apart head text

instance (only : Option Mark) (text : String) : Decidable (TellsMark only text) := List.decidableBAll _ Mark.all

/-- A line that goes on from a text. -/
def Starts (text line : String) : Prop := Utf8.bytes text <+: Utf8.bytes line

theorem Starts.self (text : String) : Starts text text := List.prefix_rfl

theorem Starts.append {text line : String} (starts : Starts text line) (rest : String) :
    Starts text (line ++ rest) := by
  rw [Starts, Utf8.bytes_append]
  exact List.IsPrefix.trans starts (List.prefix_append _ _)

theorem Starts.marked {text line : String} (starts : Starts text line) {only : Option Mark}
    (tells : TellsMark only text) : Marked only line := by
  intro m member
  obtain ⟨rest, begins⟩ := starts.append "\n"
  have told := tells m member
  rw [row, ← begins, beginsWith]
  by_cases same : only = some m
  · rw [if_pos same] at told
    obtain ⟨head, inside, goes_on⟩ := told
    rw [decide_eq_true same, List.any_eq_true]
    exact ⟨head, inside, List.isPrefixOf_iff_prefix.2 (goes_on.trans (List.prefix_append _ _))⟩
  · rw [if_neg same] at told
    rw [decide_eq_false same, List.any_eq_false]
    intro head inside begins
    exact not_prefix_of_apart (told head inside) _ (List.isPrefixOf_iff_prefix.1 begins)

/-- The lines with a mark. -/
def markedLines (m : Mark) (lines : List String) : List String := lines.filter fun line => beginsWith m.heads (row line)

theorem rowsWith_heads (m : Mark) {lines : List String} (unbroken : ∀ line ∈ lines, Unbroken line) :
    rowsWith m.heads (Utf8.bytes (linesText lines)) = (markedLines m lines).map row := rowsWith_linesText _ unbroken

theorem markedLines_append (m : Mark) (front back : List String) :
    markedLines m (front ++ back) = markedLines m front ++ markedLines m back := List.filter_append ..

/-- Of lines with the same mark, all or none have a mark. -/
theorem markedLines_same {only : Option Mark} {lines : List String} (all : ∀ line ∈ lines, Marked only line)
    (m : Mark) :
    markedLines m lines = if only = some m then lines else [] := by
  by_cases same : only = some m
  · rw [if_pos same, markedLines, List.filter_eq_self]
    intro line member
    rw [all line member m m.mem_all, decide_eq_true same]
  · rw [if_neg same, markedLines, List.filter_eq_nil_iff]
    intro line member
    rw [all line member m m.mem_all, decide_eq_false same]
    exact Bool.false_ne_true

theorem markedLines_none {lines : List String} (all : ∀ line ∈ lines, Marked none line) (m : Mark) :
    markedLines m lines = [] := markedLines_same all m

theorem markedLines_one {only : Option Mark} {line : String} (marked : Marked only line) (m : Mark) :
    markedLines m [line] = if only = some m then [line] else [] :=
  markedLines_same (by simpa using marked) m

theorem marked_usageLine (usage : String) : Marked none (usageLine usage) :=
  ((Starts.self _).append usage).marked (by decide +kernel)

private theorem marked_clusterLine (c : Cluster) : Marked (some .cluster) (clusterLine c) :=
  ((((((Starts.self "  cluster: ").append _).append _).append _).append _).append _).marked (by decide +kernel)

private theorem marked_hostLine (h : Host) : Marked (some .host) (hostLine h) :=
  (((((((((Starts.self "    - ").append _).append _).append _).append _).append _).append _).append _).append _).marked
    (by decide +kernel)

private theorem marked_instanceLine (i : Instance) : Marked (some .inst) (instanceLine i) := by
  rw [instanceLine]
  cases i.role with
  | master => exact ((Starts.self "    master: ").append _).marked (by decide +kernel)
  | slave => exact ((((Starts.self "    slave:  ").append _).append _).append _).marked (by decide +kernel)

private theorem mem_headed {heading line : String} {lines : List String} (member : line ∈ headed heading lines) :
    line = heading ∨ line ∈ lines := by
  rw [headed] at member
  split at member
  · cases member
  · exact List.mem_cons.1 member

private theorem markedLines_headed {heading : String} (plain : Marked none heading) (m : Mark) (lines : List String) :
    markedLines m (headed heading lines) = markedLines m lines := by
  rw [headed]
  split
  · next empty => rw [List.isEmpty_iff.1 empty]
  · exact (markedLines_append m [heading] lines).trans (by rw [markedLines_one plain]; rfl)

/-- Of a list of the clusters, the rows of the clusters have a mark, and no other one. -/
theorem markedLines_clusterLines (m : Mark) (cs : List Cluster) :
    markedLines m (clusterLines cs) = if m = .cluster then cs.map clusterLine else [] := by
  have rows : markedLines m (cs.map clusterLine) = if some Mark.cluster = some m then cs.map clusterLine else [] :=
    markedLines_same (List.forall_mem_map.2 fun c _ => marked_clusterLine c) m
  have head : Marked none "  ---------- clusters ----------" := by decide +kernel
  have foot : Marked none "  ------------------------------" := by decide +kernel
  rw [clusterLines]
  split
  · next empty =>
    have nothing : Marked none "  [topology] no clusters" := by decide +kernel
    rw [markedLines_one nothing, List.isEmpty_iff.1 empty]
    simp
  · have split_up : "  ---------- clusters ----------" :: cs.map clusterLine ++ ["  ------------------------------"] =
        ["  ---------- clusters ----------"] ++ cs.map clusterLine ++ ["  ------------------------------"] := rfl
    rw [split_up, markedLines_append, markedLines_append, rows, markedLines_one head, markedLines_one foot]
    cases m <;> simp

/-- The lines of a topology that have a mark. -/
def topologyRows (t : Topology) : Mark → List String
  | .report => []
  | .cluster => []
  | .host => t.hosts.map hostLine
  | .inst => t.instances.map instanceLine
  | .emptiness => if t.isEmpty then ["  (no hosts or instances)"] else []

theorem markedLines_topologyLines (m : Mark) (t : Topology) :
    markedLines m (topologyLines t) = topologyRows t m := by
  have hosts : markedLines m (t.hosts.map hostLine) = if some Mark.host = some m then t.hosts.map hostLine else [] :=
    markedLines_same (List.forall_mem_map.2 fun h _ => marked_hostLine h) m
  have instances : markedLines m (t.instances.map instanceLine) =
      if some Mark.inst = some m then t.instances.map instanceLine else [] :=
    markedLines_same (List.forall_mem_map.2 fun i _ => marked_instanceLine i) m
  have head : Marked none ("  ---------- cluster " ++ t.cluster.id ++ " topology ----------") :=
    (((Starts.self _).append _).append _).marked (by decide +kernel)
  have emptiness : Marked (some .emptiness) "  (no hosts or instances)" := by decide +kernel
  have foot : Marked none "  ------------------------------------------" := by decide +kernel
  have hosts_heading : Marked none "  hosts:" := by decide +kernel
  have instances_heading : Marked none "  instances:" := by decide +kernel
  have first (line : String) (lines : List String) : line :: lines = [line] ++ lines := rfl
  rw [topologyLines, first]
  simp only [markedLines_append, markedLines_headed hosts_heading, markedLines_headed instances_heading, hosts,
    instances, markedLines_one head, markedLines_one foot]
  cases empty : t.isEmpty with
  | true =>
    rw [if_pos rfl, markedLines_one emptiness]
    cases m <;> simp [topologyRows, empty]
  | false =>
    have nothing : markedLines m [] = [] := rfl
    rw [if_neg Bool.false_ne_true, nothing]
    cases m <;> simp [topologyRows, empty]

private theorem unbroken_clusterLine {c : Cluster} (whole : c.Unbroken) : Unbroken (clusterLine c) := by
  have created : Unbroken c.createdDisplay := by
    intro d member
    rw [Cluster.createdDisplay, String.toList_ofList] at member
    exact Calendar.ne_feed_of_mem_display member
  have named : Unbroken ("  cluster: " ++ c.id) := .append (by decide) whole.id
  have worker : Unbroken ("  cluster: " ++ c.id ++ "   worker: " ++ c.workerAddr) :=
    (named.append (by decide)).append whole.workerAddr
  exact (worker.append (by decide)).append created

private theorem unbroken_hostLine {h : Host} (whole : h.Unbroken) : Unbroken (hostLine h) := by
  have user : Unbroken ("    - " ++ h.ip ++ "  (ssh " ++ h.sshUser) :=
    ((Unbroken.append (by decide) whole.ip).append (by decide)).append whole.sshUser
  have address : Unbroken ("    - " ++ h.ip ++ "  (ssh " ++ h.sshUser ++ "@" ++ h.ip) :=
    (user.append (by decide)).append whole.ip
  exact ((address.append (by decide)).append (unbroken_natText _)).append (by decide)

private theorem unbroken_instanceLine {i : Instance} (whole : i.Unbroken) : Unbroken (instanceLine i) := by
  have addr := unbroken_addr whole.host
  rw [instanceLine]
  cases i.role with
  | master => exact Unbroken.append (by decide) addr
  | slave =>
    have master : Unbroken (if i.masterAddr = "" then "(unset)" else i.masterAddr) := by
      split
      · decide
      · exact whole.masterAddr
    exact ((Unbroken.append (by decide) addr).append (by decide)).append master

theorem unbroken_clusterLines {cs : List Cluster} (whole : ∀ c ∈ cs, c.Unbroken) :
    ∀ line ∈ clusterLines cs, Unbroken line := by
  intro line member
  rw [clusterLines] at member
  split at member
  · rw [List.mem_singleton.1 member]
    decide
  · rcases List.mem_append.1 member with before | foot
    · rcases List.mem_cons.1 before with rfl | inside
      · decide
      · obtain ⟨c, listed, rfl⟩ := List.mem_map.1 inside
        exact unbroken_clusterLine (whole c listed)
    · rw [List.mem_singleton.1 foot]
      decide

/-- A topology whose records have no line feeds. -/
structure UnbrokenTopology (t : Topology) : Prop where
  cluster : t.cluster.Unbroken
  hosts : ∀ h ∈ t.hosts, h.Unbroken
  instances : ∀ i ∈ t.instances, i.Unbroken

theorem unbroken_topologyLines {t : Topology} (whole : UnbrokenTopology t) :
    ∀ line ∈ topologyLines t, Unbroken line := by
  intro line member
  simp only [topologyLines, List.mem_append, List.mem_cons, or_assoc] at member
  rcases member with rfl | hosts | instances | nothing | rfl | nowhere
  · exact (Unbroken.append (by decide) whole.cluster.id).append (by decide)
  · rcases mem_headed hosts with rfl | inside
    · decide
    · obtain ⟨h, listed, rfl⟩ := List.mem_map.1 inside
      exact unbroken_hostLine (whole.hosts h listed)
  · rcases mem_headed instances with rfl | inside
    · decide
    · obtain ⟨i, listed, rfl⟩ := List.mem_map.1 inside
      exact unbroken_instanceLine (whole.instances i listed)
  · split at nothing
    · rw [List.mem_singleton.1 nothing]
      decide
    · cases nothing
  · decide
  · cases nowhere

end ClusterRegister.Console
