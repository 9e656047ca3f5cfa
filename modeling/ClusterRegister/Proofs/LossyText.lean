import ClusterRegister.Proofs.Utf8RoundTrip

/-!
# Line feeds in decoded text

Decoding bytes, also where they are ill-formed, neither makes up line feeds nor loses any: a line feed is a byte that
no other character has, and a character that it breaks off ends before it.
-/

namespace ClusterRegister.Utf8

/-- What holds wherever the automaton gets to inside a character: a line feed does not continue the character, and the
number that it denotes is above those of ASCII once it is complete. -/
def State.Sound : State → Prop
  | .between => True
  | .inside more lo _ high => 0x80 ≤ lo.toNat ∧ (2 ≤ high ∨ more ≠ 0 ∧ 0x82 ≤ high * 64 + lo.toNat)

private theorem start_sound (b : UInt8) : (start b).2.Sound := by
  rw [start_eq]
  split
  · trivial
  split
  · trivial
  split
  · exact ⟨by decide, .inl (by omega)⟩
  split
  · exact ⟨by decide, .inr ⟨by decide, by decide⟩⟩
  split
  · exact ⟨by decide, .inl (by decide)⟩
  split
  · exact ⟨by decide, .inr ⟨by decide, by simp; omega⟩⟩
  split
  · exact ⟨by decide, .inr ⟨by decide, by decide⟩⟩
  split
  · exact ⟨by decide, .inr ⟨by decide, by simp; omega⟩⟩
  split
  · exact ⟨by decide, .inl (by decide)⟩
  · trivial

private theorem step_sound {state : State} (sound : state.Sound) (b : UInt8) : (step state b).2.Sound := by
  cases state with
  | between => exact start_sound b
  | inside more lo hi high =>
    obtain ⟨above, large⟩ := sound
    rw [step]
    by_cases within : (lo ≤ b && b ≤ hi) = true
    · have least : lo.toNat ≤ b.toNat := by
        rw [Bool.and_eq_true, decide_eq_true_iff, UInt8.le_iff_toNat_le] at within
        exact within.1
      rw [if_pos within]
      cases more with
      | zero => trivial
      | succ more => exact ⟨by decide, .inl (by omega)⟩
    · rw [if_neg within]
      exact start_sound b

/-- The number 10 is the only one of a line feed. -/
theorem eq_of_ofNat_feed {n : Nat} (same : Char.ofNat n = '\n') : n = 10 := by
  by_cases valid : n.isValidChar
  · have code : Char.ofNat n = Char.ofNatAux n valid := dif_pos valid
    rw [code] at same
    exact congrArg Char.toNat same
  · have nul : Char.ofNat n = '\x00' := dif_neg valid
    rw [nul] at same
    cases same

private theorem feed_of_start {b : UInt8} (found : some '\n' ∈ (start b).1) : b = 0x0A := by
  rw [start_eq] at found
  by_cases ascii : b.toNat < 0x80
  · rw [if_pos ascii, List.mem_singleton, Option.some.injEq] at found
    exact UInt8.toNat_inj.1 (eq_of_ofNat_feed found.symm)
  · rw [if_neg ascii] at found
    repeat' split at found
    all_goals simp at found

private theorem feed_of_step {state : State} (sound : state.Sound) {b : UInt8} (found : some '\n' ∈ (step state b).1) :
    b = 0x0A := by
  cases state with
  | between => exact feed_of_start found
  | inside more lo hi high =>
    obtain ⟨above, large⟩ := sound
    rw [step] at found
    by_cases within : (lo ≤ b && b ≤ hi) = true
    · have least : lo.toNat ≤ b.toNat := by
        rw [Bool.and_eq_true, decide_eq_true_iff, UInt8.le_iff_toNat_le] at within
        exact within.1
      rw [if_pos within] at found
      cases more with
      | zero =>
        rw [List.mem_singleton, Option.some.injEq] at found
        have number := eq_of_ofNat_feed found.symm
        omega
      | succ more => cases found
    · rw [if_neg within] at found
      rcases List.mem_cons.1 found with nothing | started
      · cases nothing
      · exact feed_of_start started

private theorem step_feed {state : State} (sound : state.Sound) :
    step state 0x0A = (piecesFrom state [] ++ [some '\n'], .between) := by
  cases state with
  | between => rfl
  | inside more lo hi high =>
    have outside : ¬ (lo ≤ 0x0A && 0x0A ≤ hi) = true := by
      rw [Bool.and_eq_true, decide_eq_true_iff, UInt8.le_iff_toNat_le]
      intro within
      have small : lo.toNat ≤ 10 := within.1
      have above := sound.1
      omega
    rw [step, if_neg outside]
    rfl

private theorem piecesFrom_append_feed {state : State} (sound : state.Sound) (bs rest : Bytes) :
    piecesFrom state (bs ++ 0x0A :: rest) = piecesFrom state bs ++ some '\n' :: pieces rest := by
  induction bs generalizing state with
  | nil =>
    rw [List.nil_append, piecesFrom_cons, step_feed sound, List.append_assoc, List.singleton_append]
    rfl
  | cons b bs ih =>
    rw [List.cons_append, piecesFrom_cons, piecesFrom_cons, ih (step_sound sound b), List.append_assoc]

private theorem feed_of_mem_piecesFrom {state : State} (sound : state.Sound) {bs : Bytes}
    (found : some '\n' ∈ piecesFrom state bs) : 0x0A ∈ bs := by
  induction bs generalizing state with
  | nil =>
    cases state with
    | between => cases found
    | inside more lo hi high => simp [piecesFrom] at found
  | cons b bs ih =>
    rw [piecesFrom_cons] at found
    rcases List.mem_append.1 found with here | later
    · rw [feed_of_step sound here]
      exact .head _
    · exact .tail _ (ih (step_sound sound b) later)

/-- A line feed cuts the text of bytes in two, wherever it stands. -/
theorem decodeLossy_append_feed (bs rest : Bytes) :
    decodeLossy (bs ++ 0x0A :: rest) = decodeLossy bs ++ '\n' :: decodeLossy rest := by
  have outside : State.Sound .between := trivial
  rw [decodeLossy, pieces, piecesFrom_append_feed outside, List.map_append, List.map_cons]
  rfl

/-- Text has a line feed only where its bytes have one. -/
theorem feed_of_mem_decodeLossy {bs : Bytes} (found : '\n' ∈ decodeLossy bs) : 0x0A ∈ bs := by
  obtain ⟨piece, member, same⟩ := List.mem_map.1 found
  cases piece with
  | none => exact absurd same (by decide)
  | some c =>
    have feed : c = '\n' := same
    have outside : State.Sound .between := trivial
    rw [feed] at member
    exact feed_of_mem_piecesFrom outside member

theorem feed_mem_decodeLossy_iff {bs : Bytes} : '\n' ∈ decodeLossy bs ↔ 0x0A ∈ bs := by
  refine ⟨feed_of_mem_decodeLossy, fun member => ?_⟩
  obtain ⟨before, after, rfl⟩ := List.append_of_mem member
  rw [decodeLossy_append_feed]
  exact List.mem_append_right _ (.head _)

/-- Well-formed bytes lose nothing. -/
theorem decodeLossy_encode (cs : List Char) : decodeLossy (encode cs) = cs := by
  rw [decodeLossy, pieces_encode, List.map_map]
  exact List.map_id cs

theorem feed_mem_encode_iff {cs : List Char} : 0x0A ∈ encode cs ↔ '\n' ∈ cs := by
  rw [← feed_mem_decodeLossy_iff, decodeLossy_encode]

end ClusterRegister.Utf8
