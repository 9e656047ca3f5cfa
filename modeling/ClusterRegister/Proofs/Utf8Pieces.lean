import ClusterRegister.Proofs.Utf8RoundTrip

/-!
# Characters and ill-formed pieces

What bytes of any kind are made of. Where a character begins, decoding gives that character and goes on after it.
Anywhere else it gives one ill-formed piece, which holds no byte that could begin anything but the first. So no byte is
passed over, and none is decoded together with what does not belong to it. Well-formed are the bytes of texts alone.
-/

namespace ClusterRegister.Utf8

/-- A byte that can only stand inside a character. -/
def Continues (b : UInt8) : Prop := 0x80 ≤ b.toNat ∧ b.toNat ≤ 0xBF

/-- Bytes and the pieces that they are made of: characters, and pieces at which no character begins. -/
inductive MadeOf : Bytes → List (Option Char) → Prop
  | nothing : MadeOf [] []
  | character (c : Char) {rest : Bytes} {ps : List (Option Char)} :
    MadeOf rest ps → MadeOf (String.utf8EncodeChar c ++ rest) (some c :: ps)
  | illFormed {b : UInt8} {more rest : Bytes} {ps : List (Option Char)} : (∀ d ∈ more, Continues d) →
    (∀ c : Char, ¬ String.utf8EncodeChar c <+: b :: (more ++ rest)) → MadeOf rest ps →
    MadeOf (b :: (more ++ rest)) (none :: ps)

section Bytes

variable {v : Char} {a b c d : UInt8}

private theorem encodeChar_one (most : v.toNat < 0x80) (first : a.toNat = v.toNat) : String.utf8EncodeChar v = [a] := by
  have value : v.val.toNat = v.toNat := rfl
  simp only [String.utf8EncodeChar, value]
  rw [if_pos (by omega), ← first, UInt8.ofNat_toNat]

private theorem eq_ofNat {n : Nat} (number : b.toNat = n) : UInt8.ofNat n = b := by rw [← number, UInt8.ofNat_toNat]

private theorem encodeChar_two (least : 0x80 ≤ v.toNat) (most : v.toNat < 0x800) (first : a.toNat = v.toNat / 64 + 0xC0)
    (second : b.toNat = v.toNat % 64 + 0x80) : String.utf8EncodeChar v = [a, b] := by
  have value : v.val.toNat = v.toNat := rfl
  simp only [String.utf8EncodeChar, value]
  rw [if_neg (by omega), if_pos (by omega), eq_ofNat second,
    eq_ofNat (show a.toNat = v.toNat / 64 % 32 + 192 by omega)]

private theorem encodeChar_three (least : 0x800 ≤ v.toNat) (most : v.toNat < 0x10000)
    (first : a.toNat = v.toNat / 4096 + 0xE0) (second : b.toNat = v.toNat / 64 % 64 + 0x80)
    (third : c.toNat = v.toNat % 64 + 0x80) : String.utf8EncodeChar v = [a, b, c] := by
  have value : v.val.toNat = v.toNat := rfl
  simp only [String.utf8EncodeChar, value]
  rw [if_neg (by omega), if_neg (by omega), if_pos (by omega), eq_ofNat second, eq_ofNat third,
    eq_ofNat (show a.toNat = v.toNat / 4096 % 16 + 224 by omega)]

private theorem encodeChar_four (least : 0x10000 ≤ v.toNat) (first : a.toNat = v.toNat / 262144 + 0xF0)
    (second : b.toNat = v.toNat / 4096 % 64 + 0x80) (third : c.toNat = v.toNat / 64 % 64 + 0x80)
    (fourth : d.toNat = v.toNat % 64 + 0x80) : String.utf8EncodeChar v = [a, b, c, d] := by
  have value : v.val.toNat = v.toNat := rfl
  have scalar := scalar_value v
  simp only [String.utf8EncodeChar, value]
  rw [if_neg (by omega), if_neg (by omega), if_neg (by omega), eq_ofNat second, eq_ofNat third, eq_ofNat fourth,
    eq_ofNat (show a.toNat = v.toNat / 262144 % 8 + 240 by omega)]

end Bytes

private theorem toNat_charOfNat {n : Nat} (scalar : n < 0xD800 ∨ 0xDFFF < n ∧ n < 0x110000) :
    (Char.ofNat n).toNat = n := by
  have code : Char.ofNat n = Char.ofNatAux n scalar := dif_pos scalar
  rw [code]
  rfl

/-- The bytes that a character has so far, where the automaton is inside it: they make up the number `high`, and the
bounds on the next byte leave only characters. -/
inductive Begun : Nat → UInt8 → UInt8 → Nat → Bytes → Prop
  | oneOfTwo {a : UInt8} {high : Nat} : a.toNat = high + 0xC0 → 2 ≤ high → high < 0x20 →
    Begun 0 0x80 0xBF high [a]
  | oneOfThree {a lo hi : UInt8} {high : Nat} : a.toNat = high + 0xE0 → high < 0x10 →
    lo.toNat = (if high = 0 then 0xA0 else 0x80) → hi.toNat = (if high = 0xD then 0x9F else 0xBF) →
    Begun 1 lo hi high [a]
  | twoOfThree {a b : UInt8} {high : Nat} : a.toNat = high / 64 + 0xE0 → b.toNat = high % 64 + 0x80 →
    0x20 ≤ high → high < 0x400 → ¬ (0x360 ≤ high ∧ high < 0x380) → Begun 0 0x80 0xBF high [a, b]
  | oneOfFour {a lo hi : UInt8} {high : Nat} : a.toNat = high + 0xF0 → high ≤ 4 →
    lo.toNat = (if high = 0 then 0x90 else 0x80) → hi.toNat = (if high = 4 then 0x8F else 0xBF) →
    Begun 2 lo hi high [a]
  | twoOfFour {a b : UInt8} {high : Nat} : a.toNat = high / 64 + 0xF0 → b.toNat = high % 64 + 0x80 →
    0x10 ≤ high → high < 0x110 → Begun 1 0x80 0xBF high [a, b]
  | threeOfFour {a b c : UInt8} {high : Nat} : a.toNat = high / 4096 + 0xF0 → b.toNat = high / 64 % 64 + 0x80 →
    c.toNat = high % 64 + 0x80 → 0x400 ≤ high → high < 0x4400 → Begun 0 0x80 0xBF high [a, b, c]

section Inside

variable {more high : Nat} {lo hi b : UInt8} {seen : Bytes}

/-- A byte between the bounds completes a character that lacks one byte. -/
theorem Begun.complete (begun : Begun 0 lo hi high seen) (above : lo.toNat ≤ b.toNat) (below : b.toNat ≤ hi.toNat) :
    String.utf8EncodeChar (Char.ofNat (high * 64 + (b.toNat - 0x80))) = seen ++ [b] := by
  cases begun with
  | oneOfTwo first least most =>
    simp only [UInt8.reduceToNat] at above below
    have value := toNat_charOfNat (n := high * 64 + (b.toNat - 0x80)) (.inl (by omega))
    exact encodeChar_two (by omega) (by omega) (by omega) (by omega)
  | twoOfThree first second least most no_surrogate =>
    simp only [UInt8.reduceToNat] at above below
    have value := toNat_charOfNat (n := high * 64 + (b.toNat - 0x80)) (by omega)
    exact encodeChar_three (by omega) (by omega) (by omega) (by omega) (by omega)
  | threeOfFour first second third least most =>
    simp only [UInt8.reduceToNat] at above below
    have value := toNat_charOfNat (n := high * 64 + (b.toNat - 0x80)) (.inr (by omega))
    exact encodeChar_four (by omega) (by omega) (by omega) (by omega) (by omega)

/-- A byte between the bounds brings a character that lacks more bytes one byte further. -/
theorem Begun.go_on (begun : Begun (more + 1) lo hi high seen) (above : lo.toNat ≤ b.toNat)
    (below : b.toNat ≤ hi.toNat) : Begun more 0x80 0xBF (high * 64 + (b.toNat - 0x80)) (seen ++ [b]) := by
  cases begun with
  | oneOfThree first most least_next most_next =>
    rw [least_next] at above
    rw [most_next] at below
    split at above <;> split at below <;>
      exact .twoOfThree (by omega) (by omega) (by omega) (by omega) (by omega)
  | oneOfFour first most least_next most_next =>
    rw [least_next] at above
    rw [most_next] at below
    split at above <;> split at below <;> exact .twoOfFour (by omega) (by omega) (by omega) (by omega)
  | twoOfFour first second least most =>
    simp only [UInt8.reduceToNat] at above below
    exact .threeOfFour (by omega) (by omega) (by omega) (by omega) (by omega)

/-- All bytes of a begun character but the first could only stand inside one. -/
theorem Begun.continues (begun : Begun more lo hi high seen) : ∃ a ds, seen = a :: ds ∧ ∀ d ∈ ds, Continues d := by
  cases begun with
  | oneOfTwo | oneOfThree | oneOfFour => exact ⟨_, _, rfl, fun d member => absurd member List.not_mem_nil⟩
  | twoOfThree first second | twoOfFour first second =>
    refine ⟨_, _, rfl, fun d member => ?_⟩
    rw [List.mem_singleton.1 member]
    exact ⟨by omega, by omega⟩
  | threeOfFour first second third =>
    refine ⟨_, _, rfl, fun d member => ?_⟩
    rcases List.mem_cons.1 member with rfl | last
    · exact ⟨by omega, by omega⟩
    · rw [List.mem_singleton.1 last]
      exact ⟨by omega, by omega⟩

/-- The automaton got inside a character from between characters. -/
structure Inside (more : Nat) (lo hi : UInt8) (high : Nat) (seen : Bytes) : Prop where
  begun : Begun more lo hi high seen
  runs : ∀ rest, pieces (seen ++ rest) = piecesFrom (.inside more lo hi high) rest

theorem Inside.go_on (inside : Inside (more + 1) lo hi high seen) (above : lo.toNat ≤ b.toNat)
    (below : b.toNat ≤ hi.toNat) : Inside more 0x80 0xBF (high * 64 + (b.toNat - 0x80)) (seen ++ [b]) where
  begun := inside.begun.go_on above below
  runs rest := by
    have within : (lo ≤ b && b ≤ hi) = true := by simp [UInt8.le_iff_toNat_le, above, below]
    rw [List.append_assoc, List.singleton_append, inside.runs, piecesFrom_cons, step, if_pos within]
    rfl

end Inside

/-- What the first byte of a character can be: it is the character, it begins one, or it is ill-formed by itself. -/
theorem start_cases (b : UInt8) :
    (∃ c, start b = ([some c], .between) ∧ String.utf8EncodeChar c = [b]) ∨
      (∃ more lo hi high, start b = ([], .inside more lo hi high) ∧ Begun more lo hi high [b]) ∨
      start b = ([none], .between) := by
  by_cases ascii : b.toNat < 0x80
  · refine .inl ⟨Char.ofNat b.toNat, by rw [start_eq, if_pos ascii], ?_⟩
    have value := toNat_charOfNat (n := b.toNat) (.inl (by omega))
    exact encodeChar_one (by omega) value.symm
  by_cases alone : b.toNat < 0xC2
  · exact .inr (.inr (by rw [start_eq, if_neg ascii, if_pos alone]))
  by_cases two : b.toNat < 0xE0
  · exact .inr (.inl ⟨_, _, _, _, @start_two b (b.toNat - 0xC0) (by omega) (by omega) (by omega),
      .oneOfTwo (by omega) (by omega) (by omega)⟩)
  by_cases three : b.toNat < 0xF0
  · obtain ⟨lo, hi, first, least, most⟩ := @start_three b (b.toNat - 0xE0) (by omega) (by omega)
    exact .inr (.inl ⟨_, _, _, _, first, .oneOfThree (by omega) (by omega) least most⟩)
  by_cases four : b.toNat ≤ 0xF4
  · obtain ⟨lo, hi, first, least, most⟩ := @start_four b (b.toNat - 0xF0) (by omega) (by omega)
    exact .inr (.inl ⟨_, _, _, _, first, .oneOfFour (by omega) (by omega) least most⟩)
  · refine .inr (.inr ?_)
    rw [start_eq, if_neg ascii, if_neg alone, if_neg two, if_neg (by omega), if_neg (by omega), if_neg three,
      if_neg (by omega), if_neg (by omega), if_neg (by omega)]

/-- Where an ill-formed piece is found, no character begins. -/
theorem no_character {bs : Bytes} {ps : List (Option Char)} (found : pieces bs = none :: ps) (c : Char) :
    ¬ String.utf8EncodeChar c <+: bs := by
  rintro ⟨rest, rfl⟩
  rw [pieces, piecesFrom_char] at found
  cases found

/-- A begun character that is broken off is one ill-formed piece. -/
theorem madeOf_broken {more high : Nat} {lo hi : UInt8} {seen rest : Bytes} {ps : List (Option Char)}
    (inside : Inside more lo hi high seen) (broken : piecesFrom (.inside more lo hi high) rest = none :: ps)
    (later : MadeOf rest ps) : MadeOf (seen ++ rest) (none :: ps) := by
  have nothing := no_character ((inside.runs rest).trans broken)
  obtain ⟨a, ds, rfl, continued⟩ := inside.begun.continues
  exact .illFormed continued nothing later

/-- Decoding from between characters and from inside one finds what the bytes are made of. -/
theorem madeOf_piecesFrom (bs : Bytes) :
    MadeOf bs (pieces bs) ∧ ∀ more lo hi high seen, Inside more lo hi high seen →
      MadeOf (seen ++ bs) (piecesFrom (.inside more lo hi high) bs) := by
  induction bs with
  | nil => exact ⟨.nothing, fun more lo hi high seen inside => madeOf_broken inside rfl .nothing⟩
  | cons b rest ih =>
    obtain ⟨outside, within⟩ := ih
    have first : MadeOf (b :: rest) (pieces (b :: rest)) := by
      have read : pieces (b :: rest) = (start b).1 ++ piecesFrom (start b).2 rest := piecesFrom_cons .between b rest
      rcases start_cases b with ⟨c, complete, bytes⟩ | ⟨more, lo, hi, high, begins, begun⟩ | alone
      · rw [read, complete]
        have made := MadeOf.character c outside
        rwa [bytes] at made
      · rw [read, begins]
        refine within more lo hi high [b] ⟨begun, fun after => ?_⟩
        have again : pieces (b :: after) = (start b).1 ++ piecesFrom (start b).2 after :=
          piecesFrom_cons .between b after
        rw [List.singleton_append, again, begins]
        rfl
      · have found : pieces (b :: rest) = none :: pieces rest := by
          rw [read, alone]
          rfl
        rw [found]
        exact @MadeOf.illFormed b [] rest _ (fun d member => absurd member List.not_mem_nil) (no_character found) outside
    refine ⟨first, fun more lo hi high seen inside => ?_⟩
    by_cases continued : lo.toNat ≤ b.toNat ∧ b.toNat ≤ hi.toNat
    · have between : (lo ≤ b && b ≤ hi) = true := by simp [UInt8.le_iff_toNat_le, continued]
      rw [piecesFrom_cons, step, if_pos between]
      cases more with
      | zero =>
        have made := MadeOf.character (Char.ofNat (high * 64 + (b.toNat - 0x80))) outside
        rw [inside.begun.complete continued.1 continued.2, List.append_assoc] at made
        exact made
      | succ more =>
        have made := within _ _ _ _ _ (inside.go_on continued.1 continued.2)
        rwa [List.append_assoc] at made
    · have broken : piecesFrom (.inside more lo hi high) (b :: rest) = none :: pieces (b :: rest) := by
        have outside_bounds : ¬ (lo ≤ b && b ≤ hi) = true := by
          simpa [UInt8.le_iff_toNat_le] using continued
        rw [piecesFrom_cons, step, if_neg outside_bounds]
        exact congrArg (none :: ·) (piecesFrom_cons .between b rest).symm
      rw [broken]
      exact madeOf_broken inside broken first

theorem madeOf_pieces (bs : Bytes) : MadeOf bs (pieces bs) := (madeOf_piecesFrom bs).1

theorem MadeOf.of_map_some {bs : Bytes} {cs : List Char} (made : MadeOf bs (cs.map some)) : bs = encode cs := by
  induction cs generalizing bs with
  | nil =>
    cases made
    rfl
  | cons c cs ih =>
    cases made with
    | character _ later =>
      rw [ih later]
      rfl

private theorem present?_eq_some {ps : List (Option Char)} {cs : List Char} (all : present? ps = some cs) :
    ps = cs.map some := by
  induction ps generalizing cs with
  | nil =>
    cases all
    rfl
  | cons p ps ih =>
    cases p with
    | none => cases all
    | some c =>
      obtain ⟨later, found, rfl⟩ := Option.map_eq_some_iff.1 all
      rw [ih found]
      rfl

/-- Well-formed bytes are those of a text. -/
theorem decode?_eq_some_iff {bs : Bytes} {cs : List Char} : decode? bs = some cs ↔ bs = encode cs := by
  constructor
  · intro decoded
    have made := madeOf_pieces bs
    rw [present?_eq_some decoded] at made
    exact made.of_map_some
  · rintro rfl
    exact decode?_encode cs

/-- The bytes of a text. -/
def IsText (bs : Bytes) : Prop := ∃ cs, bs = encode cs

theorem isText_iff {bs : Bytes} : IsText bs ↔ ∃ cs, decode? bs = some cs := by
  simp only [IsText, decode?_eq_some_iff]

private theorem decode?_append (cs : List Char) (rest : Bytes) :
    decode? (encode cs ++ rest) = (decode? rest).map (cs ++ ·) := by
  induction cs with
  | nil => simp
  | cons c cs ih =>
    have split : encode (c :: cs) ++ rest = String.utf8EncodeChar c ++ (encode cs ++ rest) := List.append_assoc _ _ _
    have next : decode? (encode (c :: cs) ++ rest) = (decode? (encode cs ++ rest)).map (c :: ·) := by
      rw [split, decode?, pieces, piecesFrom_char]
      rfl
    rw [next, ih, Option.map_map]
    rfl

/-- What follows a text in a text is a text. -/
theorem isText_append (cs : List Char) {rest : Bytes} (whole : IsText (encode cs ++ rest)) : IsText rest := by
  obtain ⟨all, decoded⟩ := isText_iff.1 whole
  rw [decode?_append, Option.map_eq_some_iff] at decoded
  obtain ⟨ds, decoded, -⟩ := decoded
  exact isText_iff.2 ⟨ds, decoded⟩

/-- What follows a byte of ASCII in a text is a text. -/
theorem isText_tail {b : UInt8} {rest : Bytes} (ascii : b.toNat < 0x80) (whole : IsText (b :: rest)) : IsText rest := by
  have value := toNat_charOfNat (n := b.toNat) (.inl (by omega))
  have bytes : String.utf8EncodeChar (Char.ofNat b.toNat) = [b] := encodeChar_one (by omega) value.symm
  have single : encode [Char.ofNat b.toNat] = [b] := (List.append_nil _).trans bytes
  refine isText_append [Char.ofNat b.toNat] ?_
  rwa [single]

end ClusterRegister.Utf8
