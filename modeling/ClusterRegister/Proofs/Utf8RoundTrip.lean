import ClusterRegister.Text.Utf8

/-!
# Reading UTF-8 back

The bytes of a text consist of exactly its characters, so a text is decoded from its own bytes.
-/

namespace ClusterRegister.Utf8

/-- Inside a character, a byte that continues it but does not complete it. -/
theorem step_continue (more high : Nat) (lo hi : UInt8) {b : UInt8} {low : Nat} (value : b.toNat = low + 0x80)
    (above : lo.toNat ≤ low + 0x80) (below : low + 0x80 ≤ hi.toNat) :
    step (.inside (more + 1) lo hi high) b = ([], .inside more 0x80 0xBF (high * 64 + low)) := by
  have within : (lo ≤ b && b ≤ hi) = true := by
    simp [UInt8.le_iff_toNat_le, value, above, below]
  simp only [step, within, if_true, value, Nat.add_sub_cancel]

/-- Inside a character, the byte that completes it. -/
theorem step_complete (high : Nat) (lo hi : UInt8) {b : UInt8} {low : Nat} (value : b.toNat = low + 0x80)
    (above : lo.toNat ≤ low + 0x80) (below : low + 0x80 ≤ hi.toNat) :
    step (.inside 0 lo hi high) b = ([some (Char.ofNat (high * 64 + low))], .between) := by
  have within : (lo ≤ b && b ≤ hi) = true := by
    simp [UInt8.le_iff_toNat_le, value, above, below]
  simp only [step, within, if_true, value, Nat.add_sub_cancel]

theorem start_eq (b : UInt8) :
    start b =
      if b.toNat < 0x80 then ([some (Char.ofNat b.toNat)], .between)
      else if b.toNat < 0xC2 then ([none], .between)
      else if b.toNat < 0xE0 then ([], .inside 0 0x80 0xBF (b.toNat - 0xC0))
      else if b.toNat = 0xE0 then ([], .inside 1 0xA0 0xBF 0)
      else if b.toNat = 0xED then ([], .inside 1 0x80 0x9F 0xD)
      else if b.toNat < 0xF0 then ([], .inside 1 0x80 0xBF (b.toNat - 0xE0))
      else if b.toNat = 0xF0 then ([], .inside 2 0x90 0xBF 0)
      else if b.toNat < 0xF4 then ([], .inside 2 0x80 0xBF (b.toNat - 0xF0))
      else if b.toNat = 0xF4 then ([], .inside 2 0x80 0x8F 4)
      else ([none], .between) := by
  simp only [start, UInt8.lt_iff_toNat_lt, ← UInt8.toNat_inj, UInt8.reduceToNat]

theorem piecesFrom_cons (state : State) (b : UInt8) (rest : Bytes) :
    piecesFrom state (b :: rest) = (step state b).1 ++ piecesFrom (step state b).2 rest := by
  cases state <;> rfl

private theorem toNat_ofNat {n : Nat} (fits : n < 256) : (UInt8.ofNat n).toNat = n := by
  rw [UInt8.toNat_ofNat']
  omega

theorem start_two {b : UInt8} {high : Nat} (value : b.toNat = high + 0xC0) (least : 2 ≤ high)
    (most : high < 0x20) : start b = ([], .inside 0 0x80 0xBF high) := by
  rw [start_eq, value, if_neg (by omega), if_neg (by omega), if_pos (by omega), Nat.add_sub_cancel]

/-- Of three bytes, the second one must neither be overlong nor lead to a surrogate. -/
theorem start_three {b : UInt8} {high : Nat} (value : b.toNat = high + 0xE0) (most : high < 0x10) :
    ∃ lo hi, start b = ([], .inside 1 lo hi high) ∧ lo.toNat = (if high = 0 then 0xA0 else 0x80) ∧
      hi.toNat = (if high = 0xD then 0x9F else 0xBF) := by
  rw [start_eq, value, if_neg (by omega), if_neg (by omega), if_neg (by omega)]
  by_cases zero : high = 0
  · subst zero
    exact ⟨0xA0, 0xBF, by simp, by simp, by simp⟩
  · rw [if_neg (by omega), if_neg zero]
    by_cases surrogates : high = 0xD
    · subst surrogates
      exact ⟨0x80, 0x9F, by simp, by simp, by simp⟩
    · rw [if_neg (by omega), if_pos (by omega), if_neg surrogates, Nat.add_sub_cancel]
      exact ⟨0x80, 0xBF, rfl, by simp, by simp⟩

/-- Of four bytes, the second one must neither be overlong nor lead above the last character. -/
theorem start_four {b : UInt8} {high : Nat} (value : b.toNat = high + 0xF0) (most : high ≤ 4) :
    ∃ lo hi, start b = ([], .inside 2 lo hi high) ∧ lo.toNat = (if high = 0 then 0x90 else 0x80) ∧
      hi.toNat = (if high = 4 then 0x8F else 0xBF) := by
  rw [start_eq, value, if_neg (by omega), if_neg (by omega), if_neg (by omega), if_neg (by omega),
    if_neg (by omega), if_neg (by omega)]
  by_cases zero : high = 0
  · subst zero
    exact ⟨0x90, 0xBF, by simp, by simp, by simp⟩
  · rw [if_neg (by omega), if_neg zero]
    by_cases top : high = 4
    · subst top
      exact ⟨0x80, 0x8F, by simp, by simp, by simp⟩
    · rw [if_pos (by omega), if_neg top, Nat.add_sub_cancel]
      exact ⟨0x80, 0xBF, rfl, by simp, by simp⟩

theorem scalar_value (c : Char) : c.toNat < 0xD800 ∨ 0xDFFF < c.toNat ∧ c.toNat < 0x110000 := c.valid

/-- The automaton reads the bytes of a character as that character, whatever follows. -/
theorem piecesFrom_char (c : Char) (rest : Bytes) :
    piecesFrom .between (String.utf8EncodeChar c ++ rest) = some c :: piecesFrom .between rest := by
  have scalar := scalar_value c
  have value : c.val.toNat = c.toNat := rfl
  simp only [String.utf8EncodeChar, value]
  have last := toNat_ofNat (n := c.toNat % 0x40 + 0x80) (by omega)
  have middle := toNat_ofNat (n := c.toNat / 64 % 0x40 + 0x80) (by omega)
  split
  · have first : start (UInt8.ofNat c.toNat) = ([some c], .between) := by
      rw [start_eq, toNat_ofNat (by omega), if_pos (by omega), Char.ofNat_toNat]
    simp only [piecesFrom_cons, List.cons_append, List.nil_append, step.eq_1, first]
  split
  · have first := start_two (toNat_ofNat (n := c.toNat / 64 % 0x20 + 0xC0) (by omega)) (by omega) (by omega)
    have second := step_complete (c.toNat / 64 % 0x20) 0x80 0xBF last (by simp)
      (by simp; omega)
    have whole : c.toNat / 64 % 0x20 * 64 + c.toNat % 0x40 = c.toNat := by omega
    rw [whole, Char.ofNat_toNat] at second
    simp only [piecesFrom_cons, List.cons_append, List.nil_append, step.eq_1, first, second]
  split
  · obtain ⟨lo, hi, first, lo_value, hi_value⟩ :=
      start_three (toNat_ofNat (n := c.toNat / 4096 % 0x10 + 0xE0) (by omega)) (by omega)
    have second := step_continue 0 (c.toNat / 4096 % 0x10) lo hi middle
      (by rw [lo_value]; split <;> omega) (by rw [hi_value]; split <;> omega)
    have third :=
      step_complete (c.toNat / 4096 % 0x10 * 64 + c.toNat / 64 % 0x40) 0x80 0xBF last (by simp) (by simp; omega)
    have whole : (c.toNat / 4096 % 0x10 * 64 + c.toNat / 64 % 0x40) * 64 + c.toNat % 0x40 = c.toNat := by
      omega
    rw [whole, Char.ofNat_toNat] at third
    simp only [Nat.reduceAdd] at second
    simp only [piecesFrom_cons, List.cons_append, List.nil_append, step.eq_1, first, second, third]
  · have upper := toNat_ofNat (n := c.toNat / 4096 % 0x40 + 0x80) (by omega)
    obtain ⟨lo, hi, first, lo_value, hi_value⟩ :=
      start_four (toNat_ofNat (n := c.toNat / 262144 % 0x08 + 0xF0) (by omega)) (by omega)
    have second := step_continue 1 (c.toNat / 262144 % 0x08) lo hi upper
      (by rw [lo_value]; split <;> omega) (by rw [hi_value]; split <;> omega)
    have third :=
      step_continue 0 (c.toNat / 262144 % 0x08 * 64 + c.toNat / 4096 % 0x40) 0x80 0xBF middle (by simp)
        (by simp; omega)
    have fourth := step_complete ((c.toNat / 262144 % 0x08 * 64 + c.toNat / 4096 % 0x40) * 64 + c.toNat / 64 % 0x40)
      0x80 0xBF last (by simp) (by simp; omega)
    have whole : ((c.toNat / 262144 % 0x08 * 64 + c.toNat / 4096 % 0x40) * 64 + c.toNat / 64 % 0x40) * 64 +
        c.toNat % 0x40 = c.toNat := by omega
    rw [whole, Char.ofNat_toNat] at fourth
    simp only [Nat.reduceAdd] at second third
    simp only [piecesFrom_cons, List.cons_append, List.nil_append, step.eq_1, first, second, third, fourth]

theorem pieces_encode (cs : List Char) : pieces (encode cs) = cs.map some := by
  induction cs with
  | nil => rfl
  | cons c rest ih =>
    have split : encode (c :: rest) = String.utf8EncodeChar c ++ encode rest := rfl
    rw [split, pieces, piecesFrom_char]
    exact congrArg (some c :: ·) ih

private theorem present?_map_some (cs : List Char) : present? (cs.map some) = some cs := by
  induction cs with
  | nil => rfl
  | cons c rest ih => simp [present?, ih]

@[simp] theorem decode?_encode (cs : List Char) : decode? (encode cs) = some cs := by
  rw [decode?, pieces_encode, present?_map_some]

end ClusterRegister.Utf8
