import ClusterRegister.Proofs.ReadRows
import ClusterRegister.Topology

/-!
# Stored forms

Hosts, instances and lists of them are read back as they were written. So are clusters, but for a leap second inside a
minute, which is carried over. Bytes written again after they were read have reached their stored form
(`records_round_trip`).
-/

namespace ClusterRegister

open ClusterRegister.Calendar ClusterRegister.Json ClusterRegister.Record

/-- A cluster as it is read back. -/
def Cluster.carried (c : Cluster) : Cluster := { c with createdAt := c.createdAt.carried }

theorem Cluster.carried_of_leapEndsMinute {c : Cluster} (ends : c.createdAt.LeapEndsMinute) : c.carried = c := by
  rw [carried, Instant.carried_of_leapEndsMinute ends]

/-- A topology as it is read back. -/
def Topology.carried (t : Topology) : Topology := { t with cluster := t.cluster.carried }

namespace Record

/-- Records that are read back as they were written. -/
class Exact (α : Type) [Stored α] : Prop where
  readBack_eq : ∀ a : α, readBack a = a

theorem Exact.of_no_instant {α : Type} [Stored α] (no_instant : ∀ c ∈ Stored.layout α, c.kind ≠ .instant) :
    Exact α where
  readBack_eq a := by rw [readBack, Row.readBack_of_no_instant no_instant, Stored.ofRow_toRow]

instance : Exact Host := .of_no_instant (by decide)

instance : Exact Instance := .of_no_instant (by decide)

section Exact

variable {α : Type} [Stored α] [Exact α]

private theorem decode_exact (a : α) : decode (encode a) = .ok a := by rw [decode_encode, Exact.readBack_eq]

theorem decodeList_exact (as : List α) : decodeList (encodeList as) = .ok as := by
  rw [decodeList_encodeList, List.map_congr_left fun a _ => Exact.readBack_eq a, List.map_id']

end Exact

theorem decode_cluster (c : Cluster) : decode (encode c) = .ok c.carried := decode_encode c

/-- The bytes of a cluster do not tell whether its leap second was carried over. -/
theorem encode_carried (c : Cluster) : encode c.carried = encode c := by
  have members : members (Stored.layout Cluster) (Stored.toRow c.carried) =
      members (Stored.layout Cluster) (Stored.toRow c) := by
    have written : Kind.write .instant c.createdAt.carried = Kind.write .instant c.createdAt := by
      rw [Kind.write, Kind.write, Instant.text_carried]
    change _ :: _ :: [(_, Kind.write .instant c.createdAt.carried)] = _
    rw [written]
    rfl
  rw [encode, encode, text, text, members]

/-- A cluster that is read from any bytes is read back as it is. -/
theorem carried_of_decode {bs : Bytes} {c : Cluster} (decoded : decode bs = .ok c) : c.carried = c := by
  have steady : (Stored.layout Cluster).Steady := by
    intro column member v absent
    have none_absent : column.absent = none := by
      simp only [Stored.layout, Column.required, List.mem_cons, List.not_mem_nil, or_false] at member
      rcases member with rfl | rfl | rfl <;> rfl
    rw [none_absent] at absent
    cases absent
  exact readBack_of_decode steady (fun _ => rfl) decoded

section Forms

variable {α : Type}

/-- Bytes written again from the value that is read from them. -/
def rewritten (write : α → Bytes) (read : Bytes → Except Malformed α) (bs : Bytes) : Except Malformed Bytes :=
  (read bs).map write

/-- What it means that some of the values, and all that are read, are not lost in their stored form. -/
structure RoundTrips (kept : α → Prop) (write : α → Bytes) (read : Bytes → Except Malformed α) : Prop where
  /-- A written value is read back as it was. -/
  read_write : ∀ a, kept a → read (write a) = .ok a
  /-- A value that is read from any bytes is read again from the bytes that are written for it. -/
  read_again : ∀ bs a, read bs = .ok a → read (write a) = .ok a
  /-- Rewritten bytes are rewritten as they are. -/
  rewritten_again : ∀ bs form, rewritten write read bs = .ok form → rewritten write read form = .ok form

theorem RoundTrips.of_read_again {kept : α → Prop} {write : α → Bytes} {read : Bytes → Except Malformed α}
    (back : ∀ a, kept a → read (write a) = .ok a) (again : ∀ bs a, read bs = .ok a → read (write a) = .ok a) :
    RoundTrips kept write read := by
  refine ⟨back, again, ?_⟩
  intro bs form rewrote
  rw [rewritten] at rewrote
  cases found : read bs with
  | error malformed =>
    rw [found] at rewrote
    cases rewrote
  | ok a =>
    rw [found] at rewrote
    cases rewrote
    rw [rewritten, again bs a found]
    rfl

theorem RoundTrips.of_read_write {write : α → Bytes} {read : Bytes → Except Malformed α}
    (back : ∀ a, read (write a) = .ok a) : RoundTrips (fun _ => True) write read :=
  .of_read_again (fun a _ => back a) fun _ a _ => back a

end Forms

/-- Clusters, hosts and instances, and lists of hosts and of instances, are not lost in their stored form, whatever their
texts, ports, roles and times, as long as a leap second ends a minute. What is read from any bytes is not lost either. -/
theorem records_round_trip :
    RoundTrips (α := Cluster) (fun c => c.createdAt.LeapEndsMinute) encode decode ∧
      RoundTrips (α := Host) (fun _ => True) encode decode ∧
      RoundTrips (α := Instance) (fun _ => True) encode decode ∧
      RoundTrips (α := List Host) (fun _ => True) encodeList decodeList ∧
      RoundTrips (α := List Instance) (fun _ => True) encodeList decodeList := by
  refine ⟨?cluster, ?host, ?inst, ?hosts, ?instances⟩
  case cluster =>
    refine .of_read_again ?_ ?_
    · intro c ends
      rw [decode_cluster, Cluster.carried_of_leapEndsMinute ends]
    · intro bs c decoded
      rw [decode_cluster, carried_of_decode decoded]
  case host => exact .of_read_write decode_exact
  case inst => exact .of_read_write decode_exact
  case hosts => exact .of_read_write decodeList_exact
  case instances => exact .of_read_write decodeList_exact

/-- The leap second at the end of a year with five digits is read back. -/
theorem leap_second_kept :
    let c : Cluster := ⟨"\"\n", "", ⟨253402387199, 1250000000, by decide, by decide, by decide⟩⟩
    c.createdAt.LeapEndsMinute ∧ c.createdAt.text = "+10000-01-01T23:59:60.250Z".toList ∧
      decode (encode c) = .ok c := by
  intro c
  have ends : c.createdAt.LeapEndsMinute := by decide
  exact ⟨ends, by decide, records_round_trip.1.read_write c ends⟩

end Record

end ClusterRegister
