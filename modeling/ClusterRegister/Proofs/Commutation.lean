import ClusterRegister.Proofs.Locality

/-!
# Commutation

Calls in different lanes do not disturb each other (`Independent.swap`): hosts are added to one cluster, instances
are added to it, and hosts and instances are added to other clusters, each as if nothing else were. So calls in
another order that keeps the order within each lane get the same answers and leave the same contents
(`reordered_same_course`).
-/

namespace ClusterRegister.Register

open ClusterRegister.Record

/-- What calls have to keep their order for: they enter clusters, or add hosts to one cluster, or instances to one
cluster. -/
inductive Lane
  | clusters
  | hosts (cluster : String)
  | instances (cluster : String)
deriving DecidableEq

def Lane.of : Cell → Lane
  | (.clusters, _) => .clusters
  | (.hosts, id) => .hosts id
  | (.instances, id) => .instances id

def Addition.lane (a : Addition) : Lane := .of a.cell

/-- Additions in different lanes, of which neither enters the cluster that the other one adds to. -/
structure Independent (a b : Addition) : Prop where
  lane : a.lane ≠ b.lane
  left : a.cell ≠ b.home
  right : b.cell ≠ a.home

theorem Independent.symm {a b : Addition} (apart : Independent a b) : Independent b a :=
  ⟨apart.lane.symm, apart.right, apart.left⟩

private theorem isCluster_of_lane {a b : Addition} (lane : a.lane ≠ b.lane) (enters : b.isCluster = true) :
    a.isCluster = false := by
  cases b with
  | cluster d =>
    cases a with
    | cluster c => exact absurd rfl lane
    | host id h => rfl
    | inst id i => rfl
  | host id h => cases enters
  | inst id i => cases enters

/-- To an addition, contents are alike before and after an independent call. -/
theorem Independent.alike {a b : Addition} (apart : Independent a b) (t : Tables) : Alike b t (a.call t).2 where
  home := blob?_call a t apart.left.symm
  cell := blob?_call a t fun same => apart.lane (congrArg Lane.of same.symm)
  order enters := order_call (isCluster_of_lane apart.lane enters) t

/-- A call leaves alone what an independent one has written, and the other way round. -/
theorem Independent.swap {a b : Addition} (apart : Independent a b) (t : Tables) :
    (b.call (a.call t).2).2 = (a.call (b.call t).2).2 := by
  obtain ⟨_, blob_b, order_b⟩ := (apart.alike t).call
  obtain ⟨_, blob_a, order_a⟩ := (apart.symm.alike t).call
  have cells : a.cell ≠ b.cell := fun same => apart.lane (congrArg Lane.of same)
  refine Tables.ext_blob? (fun cell => ?_) ?_
  · by_cases written : cell = b.cell
    · subst written
      rw [blob_b, blob?_call a _ cells.symm]
    · rw [blob?_call b _ written]
      by_cases here : cell = a.cell
      · subst here
        rw [blob_a]
      · rw [blob?_call a t here, blob?_call a _ here, blob?_call b t written]
  · cases enters : b.isCluster with
    | true => rw [order_b enters, order_call (isCluster_of_lane apart.lane enters)]
    | false =>
      rw [order_call enters]
      cases enters' : a.isCluster with
      | true => rw [order_a enters']
      | false => rw [order_call enters', order_call enters', order_call enters]

/-- Calls one after the other, each with its answer. -/
def course : Tables → List Addition → List (Addition × Except AddFailure Receipt)
  | _, [] => []
  | t, a :: as => (a, (a.call t).1) :: course (a.call t).2 as

/-- The contents after calls one after the other. -/
def afterCalls (t : Tables) (as : List Addition) : Tables := as.foldl (fun t a => (a.call t).2) t

/-- What it means that two orders of calls make no difference: in each lane the same calls get the same answers, and
the contents at the end are the same. -/
structure SameCourse (t : Tables) (as bs : List Addition) : Prop where
  answers : ∀ lane, (course t as).filter (·.1.lane = lane) = (course t bs).filter (·.1.lane = lane)
  contents : afterCalls t as = afterCalls t bs

namespace SameCourse

variable {t : Tables} {as bs cs : List Addition}

theorem refl (t : Tables) (as : List Addition) : SameCourse t as as := ⟨fun _ => rfl, rfl⟩

theorem symm (same : SameCourse t as bs) : SameCourse t bs as :=
  ⟨fun lane => (same.answers lane).symm, same.contents.symm⟩

theorem trans (first : SameCourse t as bs) (second : SameCourse t bs cs) : SameCourse t as cs :=
  ⟨fun lane => (first.answers lane).trans (second.answers lane), first.contents.trans second.contents⟩

theorem cons (a : Addition) (rest : SameCourse (a.call t).2 as bs) : SameCourse t (a :: as) (a :: bs) where
  answers lane := by rw [course, course, List.filter_cons, List.filter_cons, rest.answers lane]
  contents := rest.contents

/-- Independent calls may change places. -/
theorem swap {a b : Addition} (apart : Independent a b) (t : Tables) (as : List Addition) :
    SameCourse t (a :: b :: as) (b :: a :: as) where
  answers lane := by
    obtain ⟨answer_b, _⟩ := (apart.alike t).call
    obtain ⟨answer_a, _⟩ := (apart.symm.alike t).call
    simp only [course, answer_a, answer_b, apart.swap, List.filter_cons, decide_eq_true_eq]
    by_cases here : a.lane = lane
    · have there : ¬ b.lane = lane := fun same => apart.lane (here.trans same.symm)
      rw [if_pos here, if_neg there, if_neg there, if_pos here]
    · rw [if_neg here, if_neg here]
  contents := by
    rw [afterCalls, afterCalls, List.foldl_cons, List.foldl_cons, List.foldl_cons, List.foldl_cons, apart.swap]

/-- A call may come before calls that are independent of it. -/
theorem toFront {a : Addition} {front : List Addition} (apart : ∀ b ∈ front, Independent b a) (t : Tables)
    (back : List Addition) : SameCourse t (front ++ a :: back) (a :: (front ++ back)) := by
  induction front generalizing t with
  | nil => exact refl t _
  | cons b front ih =>
    have later := ih (fun c member => apart c (.tail _ member)) (b.call t).2
    exact (cons b later).trans (swap (apart b (.head _)) t _)

end SameCourse

/-- Calls in another order that keeps the order within each lane. As every call is in one lane, the calls are the
same ones. -/
def Reordered (as bs : List Addition) : Prop := ∀ lane, as.filter (·.lane = lane) = bs.filter (·.lane = lane)

/-- Hosts and instances are added to other clusters than those that are entered. -/
def AddedElsewhere (as : List Addition) : Prop :=
  ∀ c, .cluster c ∈ as → ∀ a ∈ as, a.isCluster = false → a.address ≠ c.id

theorem Reordered.mem_iff {as bs : List Addition} (reordered : Reordered as bs) (a : Addition) : a ∈ as ↔ a ∈ bs := by
  have in_lane (as : List Addition) : a ∈ as ↔ a ∈ as.filter (·.lane = a.lane) := by simp
  rw [in_lane as, in_lane bs, reordered a.lane]

theorem AddedElsewhere.independent {as : List Addition} (elsewhere : AddedElsewhere as) {a b : Addition}
    (first : a ∈ as) (second : b ∈ as) (lane : a.lane ≠ b.lane) : Independent a b := by
  have apart {a b : Addition} (first : a ∈ as) (second : b ∈ as) (lane : a.lane ≠ b.lane) : a.cell ≠ b.home := by
    intro same
    obtain ⟨table, address⟩ := Prod.mk.inj same
    cases a with
    | cluster c => exact elsewhere c first b second (isCluster_of_lane lane.symm rfl) address.symm
    | host id h => cases table
    | inst id i => cases table
  exact ⟨lane, apart first second lane, apart second first lane.symm⟩

/-- On any contents, calls in another order that keeps the order within each lane get the same answers and leave the
same bytes. Clusters that are entered keep their order among themselves, so that a single one may be entered at any
time, as long as nothing is added to it. -/
theorem reordered_same_course {as bs : List Addition} (reordered : Reordered as bs) (elsewhere : AddedElsewhere as)
    (t : Tables) : SameCourse t as bs := by
  induction as generalizing bs t with
  | nil =>
    cases bs with
    | nil => exact .refl t []
    | cons b bs => exact absurd ((reordered.mem_iff b).2 (.head _)) List.not_mem_nil
  | cons a as ih =>
    -- the calls before the first one of its lane in the other order are all in other lanes
    have same := reordered a.lane
    rw [List.filter_cons_of_pos (by simp)] at same
    obtain ⟨front, back, rfl, others, _, rest⟩ := List.filter_eq_cons_iff.1 same.symm
    simp only [decide_eq_true_eq] at others
    have independent (b : Addition) (member : b ∈ front) : Independent b a :=
      elsewhere.independent ((reordered.mem_iff b).2 (List.mem_append_left _ member)) (.head _) (others b member)
    have reordered_rest : Reordered as (front ++ back) := by
      intro lane
      have whole := reordered lane
      rw [List.filter_append, List.filter_cons, List.filter_cons] at whole
      rw [List.filter_append]
      by_cases here : a.lane = lane
      · subst here
        have none_in_front : front.filter (·.lane = a.lane) = [] := by simpa using others
        rw [none_in_front, List.nil_append]
        exact rest.symm
      · simpa [here] using whole
    have elsewhere_rest : AddedElsewhere as := fun c entered b member =>
      elsewhere c (.tail _ entered) b (.tail _ member)
    exact (SameCourse.cons a (ih reordered_rest elsewhere_rest _)).trans (SameCourse.toFront independent t back).symm

/-- On contents whose list of instances is damaged, hosts of one cluster, an instance of it and another cluster are
added in two orders. The instance is refused in both. -/
theorem host_and_cluster_reordered :
    let t := (Tables.empty.put .clusters "a" (encode (⟨"a", "w", .epoch⟩ : Cluster))).put .instances "a" [0x5B]
    let first := Addition.host "a" (.fresh "h" "u" 22)
    let second := Addition.host "a" (.fresh "k" "u" 22)
    let inst := Addition.inst "a" (.fresh "m" 3306 .master "")
    let cluster := Addition.cluster ⟨"b", "w", .epoch⟩
    Reordered [first, cluster, inst, second] [inst, first, second, cluster] ∧
      AddedElsewhere [first, cluster, inst, second] ∧
      SameCourse t [first, cluster, inst, second] [inst, first, second, cluster] := by
  intro t first second inst cluster
  have reordered : Reordered [first, cluster, inst, second] [inst, first, second, cluster] := by
    intro lane
    cases lane with
    | clusters => rfl
    | hosts id =>
      by_cases here : "a" = id
      · subst here
        rfl
      · simp [first, second, inst, cluster, Addition.lane, Addition.cell, Addition.table, Lane.of,
          Addition.address, here]
    | instances id =>
      by_cases here : "a" = id
      · subst here
        rfl
      · simp [first, second, inst, cluster, Addition.lane, Addition.cell, Addition.table, Lane.of,
          Addition.address, here]
  have elsewhere : AddedElsewhere [first, cluster, inst, second] := by
    intro c entered a member enters_none
    have new : c = ⟨"b", "w", .epoch⟩ := by simpa [first, second, inst, cluster] using entered
    subst new
    simp only [List.mem_cons, List.not_mem_nil, or_false] at member
    rcases member with rfl | rfl | rfl | rfl
    · decide
    · cases enters_none
    · decide
    · decide
  exact ⟨reordered, elsewhere, reordered_same_course reordered elsewhere t⟩

end ClusterRegister.Register
