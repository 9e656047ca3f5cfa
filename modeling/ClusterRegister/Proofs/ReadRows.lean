import ClusterRegister.Proofs.Outcomes
import ClusterRegister.Proofs.RecordText

/-!
# Rows that are read

The values of a row that is read, from whatever bytes, were read one by one or stand for absent ones (`readRow_sourced`).
So a record that is read is read back as it is from the bytes that are written for it (`readBack_of_decode`).
-/

namespace ClusterRegister.Record

open ClusterRegister.Calendar ClusterRegister.Json

/-- A value that was read under a column, or that stands for an absent one. -/
def Column.Sourced (c : Column) (v : c.kind.Value) : Prop :=
  (∃ s rest, c.kind.read s = .ok (v, rest)) ∨ c.absent = some v

def Row.Sourced : (l : Layout) → Row l → Prop
  | [], () => True
  | c :: cs, (v, rest) => c.Sourced v ∧ Row.Sourced cs rest

def Slots.Sourced : (l : Layout) → Slots l → Prop
  | [], () => True
  | c :: cs, (slot, rest) => (∀ v, slot = some v → c.Sourced v) ∧ Slots.Sourced cs rest

variable {l : Layout} {s rest : Bytes}

theorem Slots.sourced_none (l : Layout) : Slots.Sourced l (Slots.none l) := by
  induction l with
  | nil => trivial
  | cons c cs ih => exact ⟨fun _ => nofun, ih⟩

theorem Slots.Sourced.fill {slots filled : Slots l} (sourced : Slots.Sourced l slots) {key : String}
    (fills : Slots.fill l slots key s = some (.ok (filled, rest))) : Slots.Sourced l filled := by
  induction l generalizing rest with
  | nil => cases fills
  | cons c cs ih =>
    obtain ⟨slot, others⟩ := slots
    simp only [Slots.fill] at fills
    split at fills
    · cases slot with
      | some v => cases fills
      | none =>
        obtain ⟨t, _, valued⟩ := bind_eq_ok (Option.some.inj fills)
        obtain ⟨⟨v, u⟩, read, same⟩ := bind_eq_ok valued
        cases same
        refine ⟨fun w same => ?_, sourced.2⟩
        cases same
        exact .inl ⟨_, _, read⟩
    · obtain ⟨filling, later, fills⟩ := Option.map_eq_some_iff.1 fills
      obtain ⟨⟨more, t⟩, rfl, same⟩ := bind_eq_ok fills
      cases same
      exact ⟨sourced.1, ih sourced.2 later⟩

theorem Slots.Sourced.readMember {slots filled : Slots l} (sourced : Slots.Sourced l slots)
    (read : readMember l slots s = .ok (filled, rest)) : Slots.Sourced l filled := by
  obtain ⟨⟨key, t⟩, _, found⟩ := bind_eq_ok read
  simp only at found
  split at found
  · next fills => exact sourced.fill (fills.trans (congrArg some found))
  · obtain ⟨_, _, skipped⟩ := bind_eq_ok found
    obtain ⟨_, _, same⟩ := bind_eq_ok skipped
    cases same
    exact sourced

theorem Slots.Sourced.readMembers {fuel : Nat} {first : Bool} {slots filled : Slots l}
    (sourced : Slots.Sourced l slots) (read : readMembers l fuel first slots s = .ok (filled, rest)) :
    Slots.Sourced l filled := by
  -- one member after the other, each of which takes a unit of fuel
  induction fuel generalizing first slots s with
  | zero => cases read
  | succ fuel ih =>
    rw [Record.readMembers] at read
    split at read
    · cases read
    split at read
    · cases read
      exact sourced
    split at read
    · split at read
      · obtain ⟨⟨slots', t⟩, member, later⟩ := bind_eq_ok read
        exact ih (sourced.readMember member) later
      · cases read
    split at read
    · split at read
      · cases read
      split at read
      · obtain ⟨⟨slots', t⟩, member, later⟩ := bind_eq_ok read
        exact ih (sourced.readMember member) later
      split at read <;> cases read
    · cases read

theorem Slots.Sourced.finish {slots : Slots l} (sourced : Slots.Sourced l slots) {row : Row l}
    (finished : Slots.finish l slots = .ok row) : Row.Sourced l row := by
  induction l with
  | nil => trivial
  | cons c cs ih =>
    obtain ⟨slot, others⟩ := slots
    simp only [Slots.finish] at finished
    split at finished
    · next v present =>
      obtain ⟨more, later, same⟩ := bind_eq_ok finished
      cases same
      refine ⟨?_, ih sourced.2 later⟩
      cases slot with
      | some w =>
        cases present
        exact sourced.1 v rfl
      | none => exact .inr present
    · cases finished

private theorem sourced_of_readObject {row : Row l} (read : readObject l s = .ok (row, rest)) : Row.Sourced l row := by
  obtain ⟨⟨slots, t⟩, members, finished⟩ := bind_eq_ok read
  simp only at finished
  split at finished
  · next complete =>
    cases finished
    exact ((Slots.sourced_none l).readMembers members).finish complete
  · cases finished

private theorem sourced_of_readColumns {expected : String} {index : Nat} {row : Row l}
    (read : readColumns expected l index s = .ok (row, rest)) : Row.Sourced l row := by
  induction l generalizing index s with
  | nil => trivial
  | cons c cs ih =>
    obtain ⟨⟨present, t⟩, _, columns⟩ := bind_eq_ok read
    simp only at columns
    split at columns
    · obtain ⟨⟨v, u⟩, value, later⟩ := bind_eq_ok columns
      obtain ⟨⟨more, w⟩, others, same⟩ := bind_eq_ok later
      cases same
      exact ⟨.inl ⟨_, _, value⟩, ih others⟩
    · split at columns
      · next v absent =>
        obtain ⟨⟨more, w⟩, others, same⟩ := bind_eq_ok columns
        cases same
        exact ⟨.inr absent, ih others⟩
      · cases columns

/-- Every value of a row that is read was read, or stands for an absent one. -/
theorem readRow_sourced {name : String} {row : Row l} (read : readRow name l s = .ok (row, rest)) :
    Row.Sourced l row := by
  rw [readRow] at read
  split at read
  · cases read
  split at read
  · obtain ⟨⟨row', t⟩, columns, ended⟩ := bind_eq_ok read
    obtain ⟨_, _, same⟩ := bind_eq_ok ended
    cases same
    exact sourced_of_readColumns columns
  split at read
  · exact sourced_of_readObject read
  · cases read

theorem Kind.readBack_of_read {k : Kind} {v : k.Value} (read : k.read s = .ok (v, rest)) : k.readBack v = v := by
  cases k with
  | instant =>
    obtain ⟨⟨text, t⟩, _, timed⟩ := bind_eq_ok read
    simp only at timed
    split at timed
    · next parsed =>
      cases timed
      exact Instant.carried_of_leapEndsMinute (leapEndsMinute_of_ofText parsed)
    · cases timed
  | _ => rfl

/-- What stands for absent values is read back as it is. -/
def Layout.Steady (l : Layout) : Prop := ∀ c ∈ l, ∀ v, c.absent = some v → c.kind.readBack v = v

theorem Row.Sourced.readBack_eq (steady : Layout.Steady l) {row : Row l} (sourced : Row.Sourced l row) :
    Row.readBack l row = row := by
  induction l with
  | nil => rfl
  | cons c cs ih =>
    obtain ⟨v, others⟩ := row
    have value : c.kind.readBack v = v := by
      rcases sourced.1 with ⟨_, _, read⟩ | absent
      · exact Kind.readBack_of_read read
      · exact steady c (.head _) v absent
    rw [Row.readBack, value, ite_self, ih (fun d later => steady d (.tail _ later)) sourced.2]

/-- A record that is read from any bytes is read back as it is. -/
theorem readBack_of_decode {α : Type} [Stored α] (steady : (Stored.layout α).Steady)
    (full : ∀ row, Stored.toRow (Stored.ofRow row : α) = row) {bs : Bytes} {a : α} (decoded : decode bs = .ok a) :
    readBack a = a := by
  rw [decode, readWhole] at decoded
  split at decoded
  · cases decoded
  · next b rest found =>
    obtain ⟨⟨row, t⟩, read, same⟩ := bind_eq_ok found
    obtain rfl : Stored.ofRow row = b := (Prod.mk.inj (Except.ok.inj same)).1
    split at decoded
    · cases decoded
      rw [readBack, full, (readRow_sourced read).readBack_eq steady]
    · cases decoded

end ClusterRegister.Record
